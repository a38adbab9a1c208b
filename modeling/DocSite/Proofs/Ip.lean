import DocSite.Ip
import DocSite.Proofs.Text

/-!
# Addresses read back

  The text of an address of either version reads back as the address. For version
  6 the text may leave out a run of zero groups; the reader fills it in from the
  number of groups on both sides, so what carries the proof is that the run which
  the writer leaves out consists of zeros only.
-/

namespace DocSite

namespace Ip

open DocSite.Text

/-! ## Version 4 -/

theorem byte?_toDigits : ∀ b < 256, byte? (Nat.toDigits 10 b) = some b := by
  decide +kernel

theorem le_of_byte? {cs : List Char} {b : Nat} (h : byte? cs = some b) : b ≤ 255 := by
  simp only [byte?] at h
  split at h
  · simp at h
  · split at h
    · simp at h
    · split at h
      · rename_i hle
        rw [← Option.some.inj h]
        exact hle
      · simp at h

theorem isDigit_of_byte? {cs : List Char} {b : Nat} (h : byte? cs = some b) :
    cs.all Char.isDigit = true := by
  simp only [byte?] at h
  split at h
  · simp at h
  · rename_i hc
    simp only [Bool.or_eq_true, not_or] at hc
    simpa using hc.2

/-- The four bytes of an address, as they are written. -/
theorem toList_v4Text (n : Nat) : (v4Text n).toList =
    joinWith ['.'] ([n / 16777216 % 256, n / 65536 % 256, n / 256 % 256, n % 256].map
      (Nat.toDigits 10)) := by
  simp [v4Text]

theorem splitOn_v4Text (n : Nat) : splitOn '.' (v4Text n).toList =
    [n / 16777216 % 256, n / 65536 % 256, n / 256 % 256, n % 256].map (Nat.toDigits 10) := by
  rw [toList_v4Text]
  apply splitOn_joinWith (by simp)
  intro piece hpiece hdot
  obtain ⟨k, -, rfl⟩ := List.mem_map.1 hpiece
  have hdigit := Nat.isDigit_of_mem_toDigits (by decide) (by decide) hdot
  simp at hdigit

/-- The text of a version 4 address reads back as the address. -/
theorem v4?_v4Text {n : Nat} (h : n < 4294967296) : v4? (v4Text n).toList = some n := by
  have hbyte (k : Nat) : byte? (Nat.toDigits 10 (k % 256)) = some (k % 256) :=
    byte?_toDigits _ (Nat.mod_lt _ (by decide))
  simp only [v4?, splitOn_v4Text, List.map_cons, List.map_nil, List.mapM_cons, List.mapM_nil,
    hbyte, Option.pure_def, Option.bind_eq_bind, Option.bind_some, Option.some.injEq]
  omega

/-- What reads as a version 4 address holds no colon. -/
theorem v4?_of_colon {cs : List Char} (h : ':' ∈ cs) : v4? cs = none := by
  obtain ⟨piece, hpiece, hcolon⟩ : ∃ piece ∈ splitOn '.' cs, ':' ∈ piece :=
    exists_mem_splitOn h (by decide)
  unfold v4?
  split
  · rename_i hm
    obtain ⟨b, -, hb⟩ := exists_of_mapM hm piece hpiece
    have hdigit := List.all_eq_true.1 (isDigit_of_byte? hb) ':' hcolon
    simp at hdigit
  · rfl

theorem lt_of_v4? {cs : List Char} {n : Nat} (h : v4? cs = some n) : n < 4294967296 := by
  unfold v4? at h
  split at h
  · rename_i a b c d hm
    have hle := forall_of_mapM (fun _ _ => le_of_byte?) hm
    have ha := hle a (by simp)
    have hb := hle b (by simp)
    have hc := hle c (by simp)
    have hd := hle d (by simp)
    have hn := Option.some.inj h
    omega
  · simp at h

/-! ## Version 6 -/

theorem group?_toDigits {g : Nat} (h : g < 65536) : group? (Nat.toDigits 16 g) = some g := by
  have hlen : (Nat.toDigits 16 g).length ≤ 4 :=
    (Nat.length_toDigits_le_iff (by decide) (by decide)).2 h
  have hhex : (Nat.toDigits 16 g).all isHexDigit = true :=
    List.all_eq_true.2 fun c hc => isHexDigit_of_mem_toDigits (by decide) (by decide) hc
  have hne : (Nat.toDigits 16 g).isEmpty = false := by simp
  have hread : readDigits 16 (Nat.toDigits 16 g) = g :=
    readDigits_toDigits (by decide) (by decide) g
  simp only [group?, hne, hhex, Nat.not_lt.2 hlen, decide_false, Bool.or_self, Bool.not_true,
    Bool.false_eq_true, if_false, hread]

theorem lt_of_group? {cs : List Char} {g : Nat} (h : group? cs = some g) : g < 65536 := by
  unfold group? at h
  split at h
  · simp at h
  · rename_i hc
    simp only [Bool.or_eq_true, decide_eq_true_eq, not_or, Nat.not_lt] at hc
    have hlt := readDigits_lt cs
    have hpow : 16 ^ cs.length ≤ 16 ^ 4 := Nat.pow_le_pow_right (by decide) hc.1.2
    rw [← Option.some.inj h]
    omega

/-- The groups that the writer joined are the groups that the reader finds. -/
theorem groups?_toDigits (allowV4 : Bool) {groups : List Nat} (h : ∀ g ∈ groups, g < 65536) :
    groups? allowV4 (groups.map (Nat.toDigits 16)) = some groups := by
  induction groups with
  | nil => rfl
  | cons g rest ih =>
    have hg : group? (Nat.toDigits 16 g) = some g := group?_toDigits (h g (by simp))
    have hrest := ih fun x hx => h x (by simp [hx])
    cases rest with
    | nil => simp [groups?, hg]
    | cons next rest =>
      rw [List.map_cons] at hrest
      simp [groups?, hg, hrest]

/-- Whether a text can stand before a colon without making a gap with it. -/
theorem splitGap_append {piece : List Char} (h : ':' ∉ piece) (rest : List Char) :
    splitGap (piece ++ rest) = (splitGap rest).map fun (head, tail) => (piece ++ head, tail) := by
  induction piece with
  | nil => simp
  | cons c piece ih =>
    have hc : c ≠ ':' := fun e => h (by simp [e])
    have hrest := ih fun e => h (by simp [e])
    rw [List.cons_append, splitGap.eq_def]
    split
    · rename_i he
      exact absurd (List.cons.inj he).1 hc
    · rename_i he
      obtain ⟨rfl, rfl⟩ := List.cons.inj he
      simp [hrest, Function.comp_def]
    · rename_i he
      simp at he

/-- A single colon makes no gap. -/
theorem splitGap_colon {c : Char} (h : c ≠ ':') (rest : List Char) :
    splitGap (':' :: c :: rest) =
      (splitGap (c :: rest)).map fun (head, tail) => (':' :: head, tail) := by
  rw [splitGap.eq_def]
  split
  · rename_i he
    simp only [List.cons.injEq] at he
    exact absurd he.2.1 h
  · rename_i he
    obtain ⟨rfl, rfl⟩ := List.cons.inj he
    rfl
  · rename_i he
    simp at he

/-- Groups joined by single colons come before the first gap as a whole. -/
theorem splitGap_joinWith {pieces : List (List Char)} (hcolon : ∀ piece ∈ pieces, ':' ∉ piece)
    (hne : ∀ piece ∈ pieces, piece ≠ []) (rest : List Char) :
    splitGap (joinWith [':'] pieces ++ rest) =
      (splitGap rest).map fun (head, tail) => (joinWith [':'] pieces ++ head, tail) := by
  induction pieces with
  | nil => simp [joinWith]
  | cons piece more ih =>
    have hpiece : ':' ∉ piece := hcolon piece (by simp)
    have hmore := ih (fun p hp => hcolon p (by simp [hp])) fun p hp => hne p (by simp [hp])
    cases more with
    | nil => exact splitGap_append hpiece rest
    | cons next more =>
      -- The colon between two groups is followed by a digit, so it starts no gap.
      obtain ⟨c, next, rfl⟩ := List.exists_cons_of_ne_nil (hne next (by simp))
      have hc : c ≠ ':' := fun e => hcolon (c :: next) (by simp) (by simp [e])
      rw [joinWith_cons_cons, List.append_assoc, List.append_assoc, splitGap_append hpiece]
      rw [joinWith_cons_head] at hmore ⊢
      simp only [List.cons_append, List.nil_append] at hmore ⊢
      rw [splitGap_colon hc, hmore]
      simp [Function.comp_def]

/-- The digits of groups hold no colon, and there is a digit at least. -/
theorem colon_not_mem_toDigits (g : Nat) : ':' ∉ Nat.toDigits 16 g := by
  intro h
  have hhex := isHexDigit_of_mem_toDigits (by decide) (by decide) h
  simp [isHexDigit] at hhex

theorem toList_groupsText (groups : List Nat) :
    (groupsText groups).toList = joinWith [':'] (groups.map (Nat.toDigits 16)) := by
  simp [groupsText, lowerHex, Function.comp_def]

theorem splitGap_groupsText (groups : List Nat) (rest : List Char) :
    splitGap ((groupsText groups).toList ++ rest) =
      (splitGap rest).map fun (head, tail) => ((groupsText groups).toList ++ head, tail) := by
  rw [toList_groupsText]
  apply splitGap_joinWith
  · intro piece hpiece
    obtain ⟨g, -, rfl⟩ := List.mem_map.1 hpiece
    exact colon_not_mem_toDigits g
  · intro piece hpiece
    obtain ⟨g, -, rfl⟩ := List.mem_map.1 hpiece
    exact Nat.toDigits_ne_nil

theorem splitOn_groupsText {groups : List Nat} (h : groups ≠ []) :
    splitOn ':' (groupsText groups).toList = groups.map (Nat.toDigits 16) := by
  rw [toList_groupsText]
  apply splitOn_joinWith (by simpa using h)
  intro piece hpiece
  obtain ⟨g, -, rfl⟩ := List.mem_map.1 hpiece
  exact colon_not_mem_toDigits g

/-- Written groups read back, none of them included. -/
theorem groupsOf?_groupsText (allowV4 : Bool) {groups : List Nat} (h : ∀ g ∈ groups, g < 65536) :
    groupsOf? allowV4 (groupsText groups).toList = some groups := by
  cases groups with
  | nil => simp [groupsOf?, groupsText, joinText]
  | cons g rest =>
    have hne : (groupsText (g :: rest)).toList.isEmpty = false := by
      obtain ⟨c, cs, hcs⟩ := List.exists_cons_of_ne_nil (Nat.toDigits_ne_nil (n := g) (b := 16))
      rw [toList_groupsText, List.map_cons, hcs, joinWith_cons_head]
      rfl
    rw [groupsOf?, hne, splitOn_groupsText (by simp)]
    exact groups?_toDigits allowV4 h

/-! ### Runs of zeros -/

/-- What the front run of zeros is made of. -/
theorem take_zeroRun (groups : List Nat) :
    groups.take (zeroRun groups) = List.replicate (zeroRun groups) 0 := by
  induction groups with
  | nil => rfl
  | cons g rest ih =>
    by_cases hg : g = 0
    · subst hg
      have hrun : zeroRun (0 :: rest) = zeroRun rest + 1 := by simp [zeroRun]
      rw [hrun, List.take_succ_cons, ih, List.replicate_succ]
    · have hrun : zeroRun (g :: rest) = 0 := by simp [zeroRun, hg]
      rw [hrun]
      rfl

/-- The chosen run starts at or after the front, and is the run of zeros that starts there. -/
theorem longestZeros_spec (groups : List Nat) (position : Nat)
    (h : (longestZeros position groups).2 ≠ 0) :
    position ≤ (longestZeros position groups).1 ∧
      zeroRun (groups.drop ((longestZeros position groups).1 - position)) =
        (longestZeros position groups).2 := by
  induction groups generalizing position with
  | nil => simp [longestZeros] at h
  | cons g rest ih =>
    rw [longestZeros] at h ⊢
    split
    · simp
    · rename_i hlater
      rw [if_neg hlater] at h
      obtain ⟨hle, hrun⟩ := ih (position + 1) h
      refine ⟨by omega, ?_⟩
      obtain ⟨k, hk⟩ : ∃ k, (longestZeros (position + 1) rest).1 = position + 1 + k :=
        ⟨(longestZeros (position + 1) rest).1 - (position + 1), by omega⟩
      rw [hk] at hrun ⊢
      rw [show position + 1 + k - position = k + 1 by omega, List.drop_succ_cons]
      rwa [show position + 1 + k - (position + 1) = k by omega] at hrun

/-- The groups around the chosen run, with zeros in its place. -/
theorem longestZeros_split (groups : List Nat) (h : (longestZeros 0 groups).2 ≠ 0) :
    groups.take (longestZeros 0 groups).1 ++ List.replicate (longestZeros 0 groups).2 0 ++
      groups.drop ((longestZeros 0 groups).1 + (longestZeros 0 groups).2) = groups := by
  obtain ⟨-, hrun⟩ := longestZeros_spec groups 0 h
  rw [Nat.sub_zero] at hrun
  rw [← hrun, ← take_zeroRun, ← List.drop_drop, List.append_assoc, List.take_append_drop,
    List.take_append_drop]

/-! ### Texts -/

/-- All eight groups in a row. -/
theorem v6?_groupsText {groups : List Nat} (hlen : groups.length = 8)
    (h : ∀ g ∈ groups, g < 65536) : v6? (groupsText groups).toList = some groups := by
  have hgap : splitGap (groupsText groups).toList = none := by
    have := splitGap_groupsText groups []
    simpa [splitGap] using this
  simp [v6?, hgap, groupsOf?_groupsText true h, hlen]

/-- Groups before and after a gap: the gap stands for the zeros that are missing. -/
theorem v6?_gap {before after : List Nat} {tail : List Char}
    (hle : before.length + after.length ≤ 7) (hbefore : ∀ g ∈ before, g < 65536)
    (hafter : groupsOf? true tail = some after) :
    v6? ((groupsText before).toList ++ ':' :: ':' :: tail) =
      some (before ++ List.replicate (8 - before.length - after.length) 0 ++ after) := by
  have hgap : splitGap ((groupsText before).toList ++ ':' :: ':' :: tail) =
      some ((groupsText before).toList, tail) := by
    rw [splitGap_groupsText]
    simp [splitGap]
  simp [v6?, hgap, groupsOf?_groupsText false hbefore, hafter, hle]

theorem v6Text_eq (groups : List Nat) : v6Text groups =
    if (longestZeros 0 groups).2 < 2 then groupsText groups
    else groupsText (groups.take (longestZeros 0 groups).1) ++ "::" ++
      groupsText (groups.drop ((longestZeros 0 groups).1 + (longestZeros 0 groups).2)) := rfl

/-- The text of a version 6 address reads back as the address. -/
theorem v6?_v6Text {groups : List Nat} (hlen : groups.length = 8) (h : ∀ g ∈ groups, g < 65536) :
    v6? (v6Text groups).toList = some groups := by
  rw [v6Text_eq]
  split
  · exact v6?_groupsText hlen h
  · rename_i hlong
    have hsplit := longestZeros_split groups (by omega)
    generalize (longestZeros 0 groups).1 = start at *
    generalize (longestZeros 0 groups).2 = length at *
    have hbefore : ∀ g ∈ groups.take start, g < 65536 :=
      fun g hg => h g (List.mem_of_mem_take hg)
    have hrest : ∀ g ∈ groups.drop (start + length), g < 65536 :=
      fun g hg => h g (List.mem_of_mem_drop hg)
    have hafter := groupsOf?_groupsText true hrest
    -- The number of groups that are missing is the length of the run.
    have hcount := congrArg List.length hsplit
    simp only [List.length_append, List.length_replicate, hlen] at hcount
    have hread := v6?_gap (by omega) hbefore hafter
    rw [show 8 - (groups.take start).length - (groups.drop (start + length)).length = length
      by omega, hsplit] at hread
    simpa [String.toList_append] using hread

/-- A text of version 6 holds a colon. -/
theorem colon_mem_v6Text {groups : List Nat} (hlen : groups.length = 8) :
    ':' ∈ (v6Text groups).toList := by
  rw [v6Text_eq]
  split
  · match groups, hlen with
    | g :: next :: rest, _ => simp [toList_groupsText, joinWith_cons_cons]
  · simp

/-- What reads as a version 6 address has eight groups of two bytes. -/
theorem lt_of_groups? {allowV4 : Bool} {pieces : List (List Char)} {groups : List Nat}
    (h : groups? allowV4 pieces = some groups) : ∀ g ∈ groups, g < 65536 := by
  fun_induction groups? allowV4 pieces generalizing groups with
  | case1 =>
    have hg : groups = [] := by simpa using h.symm
    simp [hg]
  | case2 last g hlast =>
    have hg : groups = [g] := by simpa using h.symm
    simpa [hg] using lt_of_group? hlast
  | case3 last hlast hv4 =>
    -- A version 4 address in the last place makes two groups.
    obtain ⟨n, hn, rfl⟩ := Option.map_eq_some_iff.1 h
    have hlt := lt_of_v4? hn
    intro g hg
    simp only [List.mem_cons, List.not_mem_nil, or_false] at hg
    omega
  | case4 => simp at h
  | case5 part rest hne ih =>
    simp only [Option.pure_def, Option.bind_eq_bind, Option.bind_eq_some_iff,
      Option.some.injEq] at h
    obtain ⟨g, hg, gs, hgs, rfl⟩ := h
    intro x hx
    rcases List.mem_cons.1 hx with rfl | hx
    · exact lt_of_group? hg
    · exact ih hgs x hx

theorem lt_of_groupsOf? {allowV4 : Bool} {cs : List Char} {groups : List Nat}
    (h : groupsOf? allowV4 cs = some groups) : ∀ g ∈ groups, g < 65536 := by
  unfold groupsOf? at h
  split at h
  · have hg : groups = [] := by simpa using h.symm
    simp [hg]
  · exact lt_of_groups? h

theorem valid_of_v6? {cs : List Char} {groups : List Nat} (h : v6? cs = some groups) :
    groups.length = 8 ∧ ∀ g ∈ groups, g < 65536 := by
  unfold v6? at h
  -- Without a gap there are eight groups; with one, zeros fill up what is missing.
  split at h
  · simp only [Option.bind_eq_bind, Option.bind_eq_some_iff] at h
    obtain ⟨gs, hgs, h⟩ := h
    split at h
    · rename_i hlen
      obtain rfl := Option.some.inj h
      exact ⟨hlen, lt_of_groupsOf? hgs⟩
    · simp at h
  · simp only [Option.bind_eq_bind, Option.bind_eq_some_iff] at h
    obtain ⟨before, hbefore, after, hafter, h⟩ := h
    split at h
    · rename_i hle
      obtain rfl := Option.some.inj h
      refine ⟨by simp; omega, ?_⟩
      intro g hg
      simp only [List.mem_append, List.mem_replicate] at hg
      rcases hg with (hg | ⟨-, rfl⟩) | hg
      · exact lt_of_groupsOf? hbefore g hg
      · decide
      · exact lt_of_groupsOf? hafter g hg
    · simp at h

/-! ### Characters -/

theorem isGraphic_v4Text (n : Nat) : ∀ c ∈ (v4Text n).toList, IsGraphic c := by
  intro c hc
  rw [toList_v4Text] at hc
  rcases mem_joinWith hc with hc | ⟨piece, hpiece, hc⟩
  · rw [List.mem_singleton.1 hc]
    decide
  · obtain ⟨k, -, rfl⟩ := List.mem_map.1 hpiece
    exact isGraphic_of_isDigit (Nat.isDigit_of_mem_toDigits (by decide) (by decide) hc)

theorem isGraphic_groupsText (groups : List Nat) :
    ∀ c ∈ (groupsText groups).toList, IsGraphic c := by
  intro c hc
  rw [toList_groupsText] at hc
  rcases mem_joinWith hc with hc | ⟨piece, hpiece, hc⟩
  · rw [List.mem_singleton.1 hc]
    decide
  · obtain ⟨k, -, rfl⟩ := List.mem_map.1 hpiece
    exact isGraphic_of_isHexDigit (isHexDigit_of_mem_toDigits (by decide) (by decide) hc)

theorem isGraphic_v6Text (groups : List Nat) : ∀ c ∈ (v6Text groups).toList, IsGraphic c := by
  intro c hc
  rw [v6Text_eq] at hc
  split at hc
  · exact isGraphic_groupsText _ c hc
  · simp only [String.toList_append, List.mem_append] at hc
    rcases hc with (hc | hc) | hc
    · exact isGraphic_groupsText _ c hc
    · have hgap : ∀ x ∈ "::".toList, IsGraphic x := forall_isGraphic (by decide)
      exact hgap c hc
    · exact isGraphic_groupsText _ c hc

end Ip

/-! ## Either version -/

namespace IpAddress

open Ip DocSite.Text

/-- An address whose numbers fit their bytes. -/
def Fits : IpAddress → Prop
  | .v4 n => n < 4294967296
  | .v6 groups => groups.length = 8 ∧ ∀ g ∈ groups, g < 65536

/-- What was read fits. -/
theorem fits_of_parse? {s : String} {ip : IpAddress} (h : parse? s = some ip) : ip.Fits := by
  unfold parse? at h
  split at h
  · rename_i n hn
    obtain rfl := Option.some.inj h
    exact lt_of_v4? hn
  · obtain ⟨groups, hgroups, rfl⟩ := Option.map_eq_some_iff.1 h
    exact valid_of_v6? hgroups

theorem colon_not_mem_v4Text (n : Nat) : ':' ∉ (v4Text n).toList := by
  intro h
  rw [toList_v4Text] at h
  rcases mem_joinWith h with h | ⟨piece, hpiece, h⟩
  · simp at h
  · obtain ⟨k, -, rfl⟩ := List.mem_map.1 hpiece
    have hdigit := Nat.isDigit_of_mem_toDigits (by decide) (by decide) h
    simp at hdigit

/-- A version 4 address is no group. -/
theorem group?_v4Text (n : Nat) : group? (v4Text n).toList = none := by
  have hdot : '.' ∈ (v4Text n).toList := by
    simp [toList_v4Text, joinWith_cons_cons]
  have hhex : (v4Text n).toList.all isHexDigit = false := by
    apply Bool.eq_false_iff.2
    intro hall
    have := List.all_eq_true.1 hall '.' hdot
    simp [isHexDigit] at this
  simp [group?, hhex]

/-- A version 4 address in the last place makes two groups. -/
theorem groups?_v4 {cs : List Char} {n : Nat} (hgroup : group? cs = none) (hv4 : v4? cs = some n) :
    groups? true [cs] = some [n / 65536, n % 65536] := by
  rw [groups?, hgroup, hv4]
  rfl

/-- A version 4 address behind the groups that mark it as embedded. -/
theorem v6?_mapped {high low : Nat} (hhigh : high < 65536) (hlow : low < 65536) :
    v6? ("::ffff:" ++ v4Text (high * 65536 + low)).toList =
      some [0, 0, 0, 0, 0, 0xffff, high, low] := by
  -- Behind the gap stand the mark and the address in its version 4 form.
  have hsplit : splitOn ':' ("ffff:" ++ v4Text (high * 65536 + low)).toList =
      ["ffff".toList, (v4Text (high * 65536 + low)).toList] := by
    have hcolon : ':' ∉ "ffff".toList := by decide
    have h := splitOn_append hcolon (v4Text (high * 65536 + low)).toList
    rw [splitOn_of_not_mem (colon_not_mem_v4Text _)] at h
    simpa using h
  have hffff : group? "ffff".toList = some 0xffff := by decide
  have htail : groupsOf? true ("ffff:" ++ v4Text (high * 65536 + low)).toList =
      some [0xffff, high, low] := by
    have hv4 : v4? (v4Text (high * 65536 + low)).toList = some (high * 65536 + low) :=
      v4?_v4Text (by omega)
    have hlast := groups?_v4 (group?_v4Text _) hv4
    have hhigh' : (high * 65536 + low) / 65536 = high := by omega
    have hlow' : (high * 65536 + low) % 65536 = low := by omega
    rw [hhigh', hlow'] at hlast
    have hfilled : ("ffff:" ++ v4Text (high * 65536 + low)).toList.isEmpty = false := by simp
    rw [groupsOf?, hfilled, if_neg Bool.false_ne_true, hsplit, groups?, hffff, hlast]
    · rfl
    · simp
  have hnone : ∀ g ∈ ([] : List Nat), g < 65536 := by simp
  have hread := v6?_gap (by simp) hnone htail
  simpa [groupsText, joinText] using hread

/-- The text of an address reads back as the address. -/
theorem parse?_text {ip : IpAddress} (h : ip.Fits) : parse? ip.text = some ip := by
  cases ip with
  | v4 n => simp [parse?, text, v4?_v4Text h]
  | v6 groups =>
    obtain ⟨hlen, hlt⟩ := h
    unfold text
    split
    · simp at *
    · rename_i gs hgs
      obtain rfl := IpAddress.v6.inj hgs
      -- Either text has a colon in it, so it is not taken for a version 4 address.
      split
      · rename_i high low
        have hnone : v4? ("::ffff:" ++ v4Text (high * 65536 + low)).toList = none :=
          v4?_of_colon (by simp)
        rw [parse?, hnone, v6?_mapped (hlt high (by simp)) (hlt low (by simp))]
        rfl
      · have hnone : v4? (v6Text groups).toList = none := v4?_of_colon (colon_mem_v6Text hlen)
        rw [parse?, hnone, v6?_v6Text hlen hlt]
        rfl

theorem isGraphic_text (ip : IpAddress) : ∀ c ∈ ip.text.toList, IsGraphic c := by
  unfold text
  split
  · exact isGraphic_v4Text _
  · split
    · intro c hc
      rw [String.toList_append, List.mem_append] at hc
      have hmark : ∀ x ∈ "::ffff:".toList, IsGraphic x := forall_isGraphic (by decide)
      rcases hc with hc | hc
      · exact hmark c hc
      · exact isGraphic_v4Text _ c hc
    · exact isGraphic_v6Text _

end IpAddress

end DocSite
