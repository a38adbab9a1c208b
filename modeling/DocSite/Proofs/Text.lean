import DocSite.Number.Decimal
import DocSite.Text.Blank
import DocSite.Text.Split
import Mathlib

/-!
# Texts that are written and read back

  Trimming is idempotent and leaves texts without blanks alone, splitting undoes
  joining, and the digits of a number read back as the number. Every reader and
  writer of the project goes through these facts.
-/

namespace DocSite.Text

/-! ## Trimming -/

/-- Dropping while a property holds stops at once at a first character without it. -/
theorem dropWhile_of_head {p : Char → Bool} {cs : List Char}
    (h : ∀ c ∈ cs.head?, p c = false) : cs.dropWhile p = cs := by
  cases cs with
  | nil => rfl
  | cons c cs =>
    have hc : p c = false := h c (by simp)
    simp [hc]

/-- The first character that dropping leaves has the property no more. -/
theorem head_dropWhile (p : Char → Bool) (cs : List Char) :
    ∀ c ∈ (cs.dropWhile p).head?, p c = false := by
  intro c hc
  have h := List.head?_dropWhile_not p cs
  rw [Option.mem_def.1 hc] at h
  simpa using h

/-- A span is the longest run of characters with a property, and what follows it. -/
theorem span_eq_iff {p : Char → Bool} {cs run rest : List Char} :
    cs.span p = (run, rest) ↔
      cs = run ++ rest ∧ (∀ c ∈ run, p c = true) ∧ ∀ c ∈ rest.head?, p c = false := by
  rw [List.span_eq_takeWhile_dropWhile]
  constructor
  · intro h
    obtain ⟨rfl, rfl⟩ := Prod.mk.inj h
    exact ⟨List.takeWhile_append_dropWhile.symm, List.all_eq_true.1 List.all_takeWhile,
      head_dropWhile p cs⟩
  · rintro ⟨rfl, hrun, hrest⟩
    have hstop : rest.takeWhile p = [] := by
      cases rest with
      | nil => rfl
      | cons c rest => simp [hrest c (by simp)]
    rw [List.takeWhile_append_of_pos hrun, List.dropWhile_append_of_pos hrun, hstop,
      dropWhile_of_head hrest, List.append_nil]

/-- What a run cannot hold stands behind it. -/
theorem mem_iff_of_span {p : Char → Bool} {x : Char} (hx : p x = false) {cs run rest : List Char}
    (h : cs.span p = (run, rest)) : x ∈ cs ↔ x ∈ rest := by
  obtain ⟨rfl, hrun, -⟩ := span_eq_iff.1 h
  have hnot : x ∉ run := by
    intro hmem
    rw [hrun x hmem] at hx
    cases hx
  simp [hnot]

/-- A text whose ends are not blank is not changed by trimming. -/
theorem trimBoth_of_ends {cs : List Char} (hhead : ∀ c ∈ cs.head?, isBlank c = false)
    (hlast : ∀ c ∈ cs.getLast?, isBlank c = false) : trimBoth cs = cs := by
  unfold trimBoth trimLeft trimRight
  rw [dropWhile_of_head hhead, dropWhile_of_head (by simpa using hlast), List.reverse_reverse]

/-- A text without blanks is not changed by trimming. -/
theorem trimBoth_of_not_blank {cs : List Char} (h : ∀ c ∈ cs, isBlank c = false) :
    trimBoth cs = cs := by
  apply trimBoth_of_ends
  · intro c hc
    exact h c (List.mem_of_mem_head? hc)
  · intro c hc
    exact h c (List.mem_of_mem_getLast? hc)

/-- The first character of what dropping at the end leaves is the first one of the text. -/
theorem head_dropWhile_reverse {p : Char → Bool} {cs : List Char} {c : Char}
    (h : c ∈ ((cs.reverse.dropWhile p).reverse).head?) : c ∈ cs.head? := by
  obtain ⟨dropped, hdropped⟩ := List.dropWhile_suffix (l := cs.reverse) p
  have hcs : cs = (cs.reverse.dropWhile p).reverse ++ dropped.reverse := by
    have := congrArg List.reverse hdropped
    simpa using this.symm
  rw [hcs, List.head?_append, Option.mem_def.1 h]
  rfl

/-- A trimmed text neither begins nor ends with a blank. -/
theorem ends_trimBoth (cs : List Char) : (∀ c ∈ (trimBoth cs).head?, isBlank c = false) ∧
    ∀ c ∈ (trimBoth cs).getLast?, isBlank c = false := by
  constructor
  · intro c hc
    exact head_dropWhile isBlank cs c (head_dropWhile_reverse hc)
  · intro c hc
    apply head_dropWhile isBlank (trimLeft cs).reverse c
    simpa [trimBoth, trimRight] using hc

/-- Nothing is left to trim after trimming. -/
theorem trimBoth_trimBoth (cs : List Char) : trimBoth (trimBoth cs) = trimBoth cs :=
  trimBoth_of_ends (ends_trimBoth cs).1 (ends_trimBoth cs).2

/-- Trimming at the front takes blanks off. -/
theorem exists_trimLeft (cs : List Char) :
    ∃ front, (∀ c ∈ front, isBlank c = true) ∧ cs = front ++ trimLeft cs := by
  refine ⟨cs.takeWhile isBlank, fun c hc => ?_, (List.takeWhile_append_dropWhile).symm⟩
  exact List.all_eq_true.1 (List.all_takeWhile) c hc

/-- Trimming takes blanks off at both ends. -/
theorem exists_trimBoth (cs : List Char) :
    ∃ front back, (∀ c ∈ front, isBlank c = true) ∧ (∀ c ∈ back, isBlank c = true) ∧
      cs = front ++ trimBoth cs ++ back := by
  obtain ⟨front, hfront, hcs⟩ := exists_trimLeft cs
  obtain ⟨back, hback, hrest⟩ := exists_trimLeft (trimLeft cs).reverse
  refine ⟨front, back.reverse, hfront, fun c hc => hback c (by simpa using hc), ?_⟩
  have hboth : trimLeft cs = trimBoth cs ++ back.reverse := by
    have := congrArg List.reverse hrest
    simpa [trimBoth, trimRight, trimLeft] using this
  rw [List.append_assoc, ← hboth]
  exact hcs

/-- Blanks behind a text that is not blank stay where they are. -/
theorem trimLeft_append {cs : List Char} (h : trimLeft cs ≠ []) (back : List Char) :
    trimLeft (cs ++ back) = trimLeft cs ++ back := by
  induction cs with
  | nil => simp at h
  | cons c cs ih =>
    by_cases hc : isBlank c = true
    · have htail : trimLeft (c :: cs) = trimLeft cs := by simp [trimLeft, hc]
      rw [htail] at h ⊢
      rw [← ih h]
      simp [trimLeft, hc]
    · simp [trimLeft, hc]

/-- A text keeps all that stands before a character that is not blank. -/
theorem exists_trimBoth_append_cons {front back : List Char} {c : Char}
    (hhead : ∀ x ∈ (front ++ c :: back).head?, isBlank x = false) (hc : isBlank c = false) :
    ∃ rest, trimBoth (front ++ c :: back) = front ++ c :: rest := by
  have hleft : trimLeft (front ++ c :: back) = front ++ c :: back := dropWhile_of_head hhead
  rw [trimBoth, hleft, trimRight]
  simp only [List.reverse_append, List.reverse_cons, List.append_assoc, List.singleton_append]
  rw [List.dropWhile_append]
  split
  · -- All that stands behind the character is blank.
    exact ⟨[], by simp [hc]⟩
  · exact ⟨(back.reverse.dropWhile isBlank).reverse, by simp⟩

/-- A blank in front of a text is trimmed. -/
theorem trimBoth_cons_blank {b : Char} (hb : isBlank b = true) (cs : List Char) :
    trimBoth (b :: cs) = trimBoth cs := by
  have hleft : trimLeft (b :: cs) = trimLeft cs := List.dropWhile_cons_of_pos hb
  rw [trimBoth, trimBoth, hleft]

/-- A blank behind a text is trimmed. -/
theorem trimBoth_append_blank {cs : List Char} (hhead : ∀ c ∈ cs.head?, isBlank c = false)
    (hlast : ∀ c ∈ cs.getLast?, isBlank c = false) {b : Char} (hb : isBlank b = true) :
    trimBoth (cs ++ [b]) = cs := by
  cases cs with
  | nil =>
    have hleft : trimLeft [b] = [] := by simp [trimLeft, hb]
    rw [List.nil_append, trimBoth, hleft, trimRight_nil]
  | cons c cs =>
    have hleft : trimLeft (c :: cs ++ [b]) = c :: cs ++ [b] := dropWhile_of_head hhead
    have hright : (c :: cs).reverse.dropWhile isBlank = (c :: cs).reverse :=
      dropWhile_of_head (by rwa [List.head?_reverse])
    rw [trimBoth, hleft, trimRight, List.reverse_append, List.reverse_singleton,
      List.singleton_append, List.dropWhile_cons_of_pos hb, hright, List.reverse_reverse]

/-! ## Graphic characters -/

/-- A character of ASCII with a form of its own, the space aside. -/
def IsGraphic (c : Char) : Prop := 0x21 ≤ c.toNat ∧ c.toNat ≤ 0x7e

instance (c : Char) : Decidable (IsGraphic c) := inferInstanceAs (Decidable (_ ∧ _))

/-- Blanks lie outside the graphic characters. -/
theorem IsGraphic.not_blank {c : Char} (h : IsGraphic c) : isBlank c = false := by
  have hall : ∀ n < 0x7f, 0x21 ≤ n → isBlank (Char.ofNat n) = false := by decide
  have hlt : c.toNat < 0x7f := Nat.lt_succ_of_le h.2
  simpa using hall c.toNat hlt h.1

/-- All characters of a given text are graphic, as a test on the text. -/
theorem forall_isGraphic {cs : List Char} (h : cs.all (fun c => decide (IsGraphic c)) = true) :
    ∀ c ∈ cs, IsGraphic c := by
  simpa using h

/-- ASCII letters and digits are graphic. -/
theorem isGraphic_of_isAlphanum {c : Char} (h : c.isAlphanum = true) : IsGraphic c := by
  simp only [Char.isAlphanum, Char.isAlpha, Char.isUpper, Char.isLower, Char.isDigit,
    Bool.or_eq_true, Bool.and_eq_true, decide_eq_true_eq, UInt32.le_iff_toNat_le, ge_iff_le] at h
  change ((65 ≤ c.toNat ∧ c.toNat ≤ 90) ∨ (97 ≤ c.toNat ∧ c.toNat ≤ 122)) ∨
    (48 ≤ c.toNat ∧ c.toNat ≤ 57) at h
  unfold IsGraphic
  omega

theorem isGraphic_of_isNameChar {c : Char} (h : isNameChar c = true) : IsGraphic c := by
  simp only [isNameChar, Bool.or_eq_true, beq_iff_eq] at h
  rcases h with (halphanum | rfl) | rfl
  · exact isGraphic_of_isAlphanum halphanum
  · decide
  · decide

theorem isGraphic_of_isDigit {c : Char} (h : c.isDigit = true) : IsGraphic c := by
  apply isGraphic_of_isAlphanum
  simp [Char.isAlphanum, h]

theorem isGraphic_of_isHexDigit {c : Char} (h : isHexDigit c = true) : IsGraphic c := by
  simp only [isHexDigit, Char.isDigit, Char.le_def, Bool.or_eq_true, Bool.and_eq_true,
    decide_eq_true_eq, UInt32.le_iff_toNat_le, ge_iff_le] at h
  change ((48 ≤ c.toNat ∧ c.toNat ≤ 57) ∨ (97 ≤ c.toNat ∧ c.toNat ≤ 102)) ∨
    (65 ≤ c.toNat ∧ c.toNat ≤ 70) at h
  unfold IsGraphic
  omega

/-- Dropping a character at the end changes nothing when another one stands there. -/
theorem dropLast_of_getLast? {x : Char} {cs : List Char} (h : cs.getLast? ≠ some x) :
    dropLast x cs = cs := by
  unfold dropLast
  rw [← List.head?_reverse] at h
  cases hr : cs.reverse with
  | nil => simpa [dropFirst] using hr
  | cons c rest =>
    have hc : c ≠ x := by simpa [hr] using h
    rw [dropFirst, if_neg hc, ← hr, List.reverse_reverse]

theorem dropLast_append_self (x : Char) (cs : List Char) : dropLast x (cs ++ [x]) = cs := by
  simp [dropLast, dropFirst]

theorem dropFirst_cons_self (x : Char) (cs : List Char) : dropFirst x (x :: cs) = cs := by
  simp [dropFirst]

/-- Dropping a character at the front changes nothing when another one stands there. -/
theorem dropFirst_of_head? {x : Char} {cs : List Char} (h : cs.head? ≠ some x) :
    dropFirst x cs = cs := by
  cases cs with
  | nil => rfl
  | cons c cs =>
    have hc : c ≠ x := by simpa using h
    rw [dropFirst, if_neg hc]

/-- A text is what is left of it, perhaps with the dropped character in front. -/
theorem eq_or_eq_cons_dropFirst (x : Char) (cs : List Char) :
    cs = dropFirst x cs ∨ cs = x :: dropFirst x cs := by
  by_cases h : cs.head? = some x
  · obtain ⟨rest, rfl⟩ := List.head?_eq_some_iff.1 h
    exact .inr (by rw [dropFirst_cons_self])
  · exact .inl (dropFirst_of_head? h).symm

/-- A text is what is left of it, perhaps with the dropped character behind. -/
theorem eq_or_eq_dropLast_append (x : Char) (cs : List Char) :
    cs = dropLast x cs ∨ cs = dropLast x cs ++ [x] := by
  by_cases h : cs.getLast? = some x
  · obtain ⟨front, rfl⟩ := List.getLast?_eq_some_iff.1 h
    exact .inr (by rw [dropLast_append_self])
  · exact .inl (dropLast_of_getLast? h).symm

/-! ## Splitting and joining -/

theorem joinWith_cons_cons (sep piece next : List Char) (rest : List (List Char)) :
    joinWith sep (piece :: next :: rest) = piece ++ sep ++ joinWith sep (next :: rest) := rfl

theorem joinWith_cons_head (sep piece : List Char) (c : Char) (rest : List (List Char)) :
    joinWith sep ((c :: piece) :: rest) = c :: joinWith sep (piece :: rest) := by
  cases rest <;> rfl

theorem joinText_cons_cons (sep piece next : String) (rest : List String) :
    joinText sep (piece :: next :: rest) = piece ++ sep ++ joinText sep (next :: rest) := rfl

/-- The pieces of two texts with a separator between them are those of the one and the other. -/
theorem splitOn_append_cons (sep : Char) (front back : List Char) :
    splitOn sep (front ++ sep :: back) = splitOn sep front ++ splitOn sep back := by
  induction front with
  | nil => simp [splitOn]
  | cons c front ih =>
    rw [List.cons_append, splitOn, splitOn, ih]
    split
    · rfl
    · cases hs : splitOn sep front with
      | nil => exact absurd hs (splitOn_ne_nil sep front)
      | cons piece rest => rfl

/-- A text without the separator is one piece. -/
theorem splitOn_of_not_mem {sep : Char} {piece : List Char} (h : sep ∉ piece) :
    splitOn sep piece = [piece] := by
  induction piece with
  | nil => rfl
  | cons c piece ih =>
    have hc : c ≠ sep := fun e => h (by simp [e])
    have hrest : sep ∉ piece := fun e => h (by simp [e])
    rw [splitOn, if_neg hc, ih hrest]

/-- A piece without the separator in front of a text is the first piece of the whole. -/
theorem splitOn_append {sep : Char} {piece : List Char} (h : sep ∉ piece) (cs : List Char) :
    splitOn sep (piece ++ sep :: cs) = piece :: splitOn sep cs := by
  rw [splitOn_append_cons, splitOn_of_not_mem h, List.singleton_append]

/-- Splitting gives back the pieces that were joined. -/
theorem splitOn_joinWith {sep : Char} {pieces : List (List Char)} (hne : pieces ≠ [])
    (h : ∀ piece ∈ pieces, sep ∉ piece) : splitOn sep (joinWith [sep] pieces) = pieces := by
  induction pieces with
  | nil => exact absurd rfl hne
  | cons piece rest ih =>
    have hpiece : sep ∉ piece := h piece (by simp)
    cases rest with
    | nil => exact splitOn_of_not_mem hpiece
    | cons next rest =>
      have hrest := ih (by simp) fun p hp => h p (by simp [hp])
      rw [joinWith_cons_cons, List.append_assoc, List.singleton_append, splitOn_append hpiece,
        hrest]

/-- Joining gives back the text that was split. -/
theorem joinWith_splitOn (sep : Char) (cs : List Char) :
    joinWith [sep] (splitOn sep cs) = cs := by
  induction cs with
  | nil => rfl
  | cons c cs ih =>
    rw [splitOn]
    cases hs : splitOn sep cs with
    | nil => exact absurd hs (splitOn_ne_nil sep cs)
    | cons piece rest =>
      rw [hs] at ih
      split
      · rename_i hc
        simp [joinWith, ih, hc]
      · cases rest with
        | nil => simpa [joinWith] using ih
        | cons next rest => simpa [joinWith] using ih

/-- No piece has the separator in it. -/
theorem not_mem_of_mem_splitOn {sep : Char} {piece cs : List Char} (h : piece ∈ splitOn sep cs) :
    sep ∉ piece := by
  induction cs generalizing piece with
  | nil =>
    obtain rfl : piece = [] := by simpa [splitOn] using h
    simp
  | cons c cs ih =>
    rw [splitOn] at h
    by_cases hc : c = sep
    · rw [if_pos hc] at h
      rcases List.mem_cons.1 h with rfl | h
      · simp
      · exact ih h
    · -- A character that is no separator is put in front of the first piece.
      rw [if_neg hc] at h
      cases hs : splitOn sep cs with
      | nil => exact absurd hs (splitOn_ne_nil sep cs)
      | cons first rest =>
        rw [hs] at h ih
        rcases List.mem_cons.1 h with rfl | h
        · have hfirst := ih List.mem_cons_self
          simpa [Ne.symm hc] using hfirst
        · exact ih (List.mem_cons_of_mem _ h)

theorem not_mem_of_mem_splitText {sep : Char} {piece text : String}
    (h : piece ∈ splitText sep text) : sep ∉ piece.toList := by
  obtain ⟨cs, hcs, rfl⟩ := List.mem_map.1 h
  simpa using not_mem_of_mem_splitOn hcs

/-- There is no first occurrence of a character that does not occur. -/
theorem splitOnce_eq_none {sep : Char} {cs : List Char} (h : sep ∉ cs) :
    splitOnce sep cs = none := by
  induction cs with
  | nil => rfl
  | cons c cs ih =>
    have hc : c ≠ sep := fun e => h (by simp [e])
    have hrest : sep ∉ cs := fun e => h (by simp [e])
    rw [splitOnce, if_neg hc, ih hrest, Option.map_none]

/-- A text is cut at the first occurrence. -/
theorem splitOnce_eq_some {sep : Char} {cs before after : List Char}
    (h : splitOnce sep cs = some (before, after)) : cs = before ++ sep :: after ∧ sep ∉ before := by
  induction cs generalizing before with
  | nil => simp [splitOnce] at h
  | cons c cs ih =>
    rw [splitOnce] at h
    split at h
    · rename_i hc
      obtain ⟨rfl, rfl⟩ := Prod.mk.inj (Option.some.inj h)
      simp [hc]
    · rename_i hc
      obtain ⟨⟨a, b⟩, hcut, he⟩ := Option.map_eq_some_iff.1 h
      obtain ⟨rfl, rfl⟩ := Prod.mk.inj he
      obtain ⟨rfl, hnot⟩ := ih hcut
      refine ⟨rfl, ?_⟩
      simp only [List.mem_cons, not_or]
      exact ⟨fun he => hc he.symm, hnot⟩

theorem splitOnce_append {sep : Char} {before : List Char} (h : sep ∉ before) (after : List Char) :
    splitOnce sep (before ++ sep :: after) = some (before, after) := by
  induction before with
  | nil => simp [splitOnce]
  | cons c before ih =>
    have hc : c ≠ sep := fun e => h (by simp [e])
    have hrest : sep ∉ before := fun e => h (List.mem_cons_of_mem _ e)
    rw [List.cons_append, splitOnce, if_neg hc, ih hrest, Option.map_some]

/-- A joined text is made of the characters of its pieces and of the separator. -/
theorem mem_joinWith {sep : List Char} {pieces : List (List Char)} {c : Char}
    (h : c ∈ joinWith sep pieces) : c ∈ sep ∨ ∃ piece ∈ pieces, c ∈ piece := by
  induction pieces with
  | nil => simp [joinWith] at h
  | cons piece rest ih =>
    cases rest with
    | nil => exact .inr ⟨piece, by simp, h⟩
    | cons next rest =>
      rw [joinWith_cons_cons, List.mem_append, List.mem_append] at h
      rcases h with (h | h) | h
      · exact .inr ⟨piece, by simp, h⟩
      · exact .inl h
      · rcases ih h with h | ⟨p, hp, hc⟩
        · exact .inl h
        · exact .inr ⟨p, by simp [hp], hc⟩

/-- The characters of a piece are in the joined text. -/
theorem mem_joinWith_of_mem {sep : List Char} {pieces : List (List Char)} {piece : List Char}
    (h : piece ∈ pieces) {c : Char} (hc : c ∈ piece) : c ∈ joinWith sep pieces := by
  induction pieces with
  | nil => simp at h
  | cons first rest ih =>
    cases rest with
    | nil =>
      obtain rfl := List.mem_singleton.1 h
      exact hc
    | cons next rest =>
      rw [joinWith_cons_cons, List.mem_append, List.mem_append]
      rcases List.mem_cons.1 h with rfl | h
      · exact .inl (.inl hc)
      · exact .inr (ih h)

/-- The characters of a piece are those of the text. -/
theorem mem_of_mem_splitOn {sep c : Char} {piece cs : List Char} (h : piece ∈ splitOn sep cs)
    (hc : c ∈ piece) : c ∈ cs := by
  rw [← joinWith_splitOn sep cs]
  exact mem_joinWith_of_mem h hc

/-- Every character other than the separator is in a piece. -/
theorem exists_mem_splitOn {sep c : Char} {cs : List Char} (hc : c ∈ cs) (hne : c ≠ sep) :
    ∃ piece ∈ splitOn sep cs, c ∈ piece := by
  rw [← joinWith_splitOn sep cs] at hc
  rcases mem_joinWith hc with h | h
  · exact absurd (List.mem_singleton.1 h) hne
  · exact h

@[simp] theorem toList_joinText (sep : String) (pieces : List String) :
    (joinText sep pieces).toList = joinWith sep.toList (pieces.map String.toList) := by
  induction pieces with
  | nil => simp [joinText, joinWith]
  | cons piece rest ih =>
    cases rest with
    | nil => simp [joinText, joinWith]
    | cons next rest =>
      rw [joinText_cons_cons, String.toList_append, String.toList_append, ih]
      simp [joinWith_cons_cons]

theorem joinText_splitText {joiner : String} {sep : Char} (h : joiner.toList = [sep])
    (text : String) : joinText joiner (splitText sep text) = text := by
  apply String.toList_injective
  rw [toList_joinText, splitText, h]
  simp [Function.comp_def, joinWith_splitOn]

/-- A text with a given beginning is that beginning and what follows it. -/
theorem dropStart?_eq_some_iff {start cs rest : List Char} :
    dropStart? start cs = some rest ↔ cs = start ++ rest := by
  induction start generalizing cs with
  | nil => simp [dropStart?]
  | cons p start ih =>
    cases cs with
    | nil => simp [dropStart?]
    | cons c cs =>
      rw [dropStart?]
      split
      · rename_i hpc
        simp [ih, hpc]
      · rename_i hpc
        simp [Ne.symm hpc]

theorem dropStart?_append (start rest : List Char) : dropStart? start (start ++ rest) = some rest :=
  dropStart?_eq_some_iff.2 rfl

/-- A text with a given ending is what precedes that ending and the ending. -/
theorem eq_append_of_dropEnd? {ending cs rest : List Char} (h : dropEnd? ending cs = some rest) :
    cs = rest ++ ending := by
  obtain ⟨reversed, hreversed, rfl⟩ := Option.map_eq_some_iff.1 h
  have := congrArg List.reverse (dropStart?_eq_some_iff.1 hreversed)
  simpa using this

theorem dropEnd?_append (ending rest : List Char) : dropEnd? ending (rest ++ ending) = some rest := by
  simp [dropEnd?, dropStart?_append]

/-- A text begins with another one that is a prefix of it. -/
theorem startsWith_iff (start cs : List Char) : startsWith start cs = true ↔ start <+: cs := by
  rw [startsWith, Option.isSome_iff_exists]
  constructor
  · rintro ⟨rest, hrest⟩
    exact ⟨rest, (dropStart?_eq_some_iff.1 hrest).symm⟩
  · rintro ⟨rest, rfl⟩
    exact ⟨rest, dropStart?_eq_some_iff.2 rfl⟩

/-- A text keeps its first character when something is added behind it. -/
theorem head_append {start : String} {c : Char} (h : start.toList.head? = some c) (rest : String) :
    (start ++ rest).toList.head? = some c := by
  rw [String.toList_append, List.head?_append, h]
  rfl

/-- Texts with different first characters begin differently. -/
theorem startsWith_of_head {start cs : List Char} {c d : Char} (hstart : start.head? = some c)
    (h : cs.head? = some d) (hne : c ≠ d) : startsWith start cs = false := by
  rw [Bool.eq_false_iff, ne_eq, startsWith_iff]
  intro hprefix
  obtain ⟨rest, rfl⟩ := hprefix
  rw [List.head?_append, hstart] at h
  exact hne (Option.some.inj h)

/-! ## Lists of readings -/

/-- Every item of a list that could be read has a value. -/
theorem exists_of_mapM {α β : Type} {f : α → Option β} {l : List α} {r : List β}
    (h : l.mapM f = some r) : ∀ a ∈ l, ∃ b ∈ r, f a = some b := by
  induction l generalizing r with
  | nil => simp
  | cons x l ih =>
    simp only [List.mapM_cons, Option.pure_def, Option.bind_eq_bind,
      Option.bind_eq_some_iff, Option.some.injEq] at h
    obtain ⟨b, hb, rs, hrs, rfl⟩ := h
    intro a ha
    rcases List.mem_cons.1 ha with rfl | ha
    · exact ⟨b, by simp, hb⟩
    · obtain ⟨c, hc, hf⟩ := ih hrs a ha
      exact ⟨c, by simp [hc], hf⟩

/-- What all values of a reader have, the values of a list have. -/
theorem forall_of_mapM {α β : Type} {f : α → Option β} {p : β → Prop}
    (hp : ∀ a b, f a = some b → p b) {l : List α} {r : List β} (h : l.mapM f = some r) :
    ∀ b ∈ r, p b := by
  induction l generalizing r with
  | nil =>
    have hr : r = [] := by simpa using h.symm
    simp [hr]
  | cons x l ih =>
    simp only [List.mapM_cons, Option.pure_def, Option.bind_eq_bind,
      Option.bind_eq_some_iff, Option.some.injEq] at h
    obtain ⟨b, hb, rs, hrs, rfl⟩ := h
    intro c hc
    rcases List.mem_cons.1 hc with rfl | hc
    · exact hp x c hb
    · exact ih hrs c hc

/-! ## Digits -/

theorem hexValue_digitChar : ∀ d : Nat, d < 16 → hexValue d.digitChar = d := by decide

theorem isHexDigit_digitChar : ∀ d : Nat, d < 16 → isHexDigit d.digitChar = true := by decide

/-- The value of digits with one more digit at the end. -/
theorem readDigits_append_singleton (base : Nat) (cs : List Char) (c : Char) :
    readDigits base (cs ++ [c]) = readDigits base cs * base + hexValue c := by
  simp [readDigits]

theorem hexValue_lt (c : Char) : hexValue c < 16 := by
  have htoNat (a b : Char) (h : a ≤ b) : a.toNat ≤ b.toNat := h
  -- Each class of digits starts where its values do, so its last digit gives the bound.
  unfold hexValue
  split
  · rename_i hd
    simp only [Char.isDigit, Bool.and_eq_true, decide_eq_true_eq] at hd
    have := htoNat c '9' hd.2
    simp at this ⊢
    omega
  · split
    · rename_i hc
      simp only [Bool.and_eq_true, decide_eq_true_eq] at hc
      have := htoNat c 'f' hc.2
      simp at this ⊢
      omega
    · split
      · rename_i hc
        simp only [Bool.and_eq_true, decide_eq_true_eq] at hc
        have := htoNat c 'F' hc.2
        simp at this ⊢
        omega
      · omega

/-- So many hexadecimal digits are below that power of sixteen. -/
theorem readDigits_lt (cs : List Char) : readDigits 16 cs < 16 ^ cs.length := by
  induction h : cs.length generalizing cs with
  | zero =>
    have hcs : cs = [] := List.length_eq_zero_iff.1 h
    simp [hcs, readDigits]
  | succ n ih =>
    obtain ⟨front, c, rfl⟩ := List.eq_nil_or_concat cs |>.resolve_left (by rintro rfl; simp at h)
    have hfront := ih front (by simpa using h)
    have hc := hexValue_lt c
    rw [List.concat_eq_append, readDigits_append_singleton]
    omega

/-- The digits of a number in a base up to sixteen read back as the number. -/
theorem readDigits_toDigits {base : Nat} (hbase : 1 < base) (hle : base ≤ 16) (n : Nat) :
    readDigits base (Nat.toDigits base n) = n := by
  induction n using Nat.strongRecOn with
  | ind n ih =>
    rw [Nat.toDigits_eq_if hbase]
    split
    · rename_i hlt
      simp [readDigits, hexValue_digitChar n (by omega)]
    · rename_i hge
      have hdiv : n / base < n := Nat.div_lt_self (by omega) hbase
      have hmod : n % base < base := Nat.mod_lt _ (by omega)
      rw [readDigits_append_singleton, ih _ hdiv, hexValue_digitChar _ (by omega),
        Nat.mul_comm, Nat.div_add_mod]

/-- The digits of a number in a base up to sixteen are hexadecimal digits. -/
theorem isHexDigit_of_mem_toDigits {base : Nat} (hbase : 1 < base) (hle : base ≤ 16) {n : Nat}
    {c : Char} (h : c ∈ Nat.toDigits base n) : isHexDigit c = true := by
  induction n using Nat.strongRecOn with
  | ind n ih =>
    rw [Nat.toDigits_eq_if hbase] at h
    split at h
    · rename_i hlt
      rw [List.mem_singleton.1 h]
      exact isHexDigit_digitChar n (by omega)
    · rename_i hge
      rcases List.mem_append.1 h with h | h
      · exact ih _ (Nat.div_lt_self (by omega) hbase) h
      · have hmod : n % base < base := Nat.mod_lt _ (by omega)
        rw [List.mem_singleton.1 h]
        exact isHexDigit_digitChar _ (by omega)

end DocSite.Text

namespace DocSite.Numeral

theorem natOfDigits_eq (cs : List Char) : natOfDigits cs = Nat.ofDigitChars 10 cs 0 := by
  simp only [natOfDigits, Nat.ofDigitChars_eq_foldl, Nat.mul_comm]

/-- The decimal digits of a number read back as the number. -/
@[simp] theorem natOfDigits_toDigits (n : Nat) : natOfDigits (Nat.toDigits 10 n) = n := by
  rw [natOfDigits_eq, Nat.ofDigitChars_ten_toDigits]

theorem natOfDigits_append (front back : List Char) :
    natOfDigits (front ++ back) = 10 ^ back.length * natOfDigits front + natOfDigits back := by
  simp only [natOfDigits_eq]
  rw [Nat.ofDigitChars_append, Nat.ofDigitChars_eq_ofDigitChars_zero]

@[simp] theorem natOfDigits_zeros (n : Nat) : natOfDigits (List.replicate n '0') = 0 := by
  rw [natOfDigits_eq, Nat.ofDigitChars_replicate_zero, Nat.mul_zero]

/-- A sequence of decimal digits is below that power of ten. -/
theorem natOfDigits_lt {cs : List Char} (h : ∀ c ∈ cs, c.isDigit = true) :
    natOfDigits cs < 10 ^ cs.length := by
  induction cs with
  | nil => simp [natOfDigits]
  | cons c cs ih =>
    have hrest := ih fun x hx => h x (List.mem_cons_of_mem _ hx)
    have hfirst : natOfDigits [c] < 10 := by
      have hc := h c (by simp)
      simp only [Char.isDigit, Bool.and_eq_true, decide_eq_true_eq,
        UInt32.le_iff_toNat_le] at hc
      have hnine : c.toNat ≤ 57 := hc.2
      simp [natOfDigits]
      omega
    rw [← List.singleton_append, natOfDigits_append, List.singleton_append, List.length_cons,
      Nat.pow_succ]
    have hmul := Nat.mul_le_mul_left (10 ^ cs.length) (Nat.le_sub_one_of_lt hfirst)
    omega

/-- A text that begins with neither sign has none. -/
theorem takeSign_of_head {cs : List Char} (h : ∀ c ∈ cs.head?, c ≠ '-' ∧ c ≠ '+') :
    takeSign cs = (false, cs) := by
  unfold takeSign
  split
  · exact absurd rfl (h '-' rfl).1
  · exact absurd rfl (h '+' rfl).2
  · rfl

/-- A sign before a digit is taken off. -/
theorem takeSign_append (negative : Bool) {ds : List Char} (h : ∀ c ∈ ds.head?, c.isDigit = true) :
    takeSign ((if negative then ['-'] else []) ++ ds) = (negative, ds) := by
  cases negative with
  | true => rfl
  | false =>
    refine takeSign_of_head fun c hc => ?_
    have hd := h c hc
    constructor
    · rintro rfl
      simp at hd
    · rintro rfl
      simp at hd

end DocSite.Numeral
