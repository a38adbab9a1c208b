import DocSite.Proofs.BasePath

/-!
# The grammar of base paths

  A base path is written as segments between single slashes, with or without a
  slash at either end. A segment is made of the characters that a path may hold and
  of escapes, and it is no dot and no two dots. Reading checks the characters in one
  pass and the escapes in another one: both together accept just this grammar. What
  is read is written in one way only, and is read again as itself.
-/

namespace DocSite

open DocSite.Text

/-! ## Segments -/

/-- Characters that mean nothing but themselves anywhere in an address. -/
def IsUnreserved (c : Char) : Prop :=
  c.isAlpha = true ∨ c.isDigit = true ∨ c = '-' ∨ c = '.' ∨ c = '_' ∨ c = '~'

/-- Characters that may delimit parts of a segment. -/
def IsSubDelimiter (c : Char) : Prop :=
  c ∈ ['!', '$', '&', '\'', '(', ')', '*', '+', ',', ';', '=']

/-- What a path may hold between its slashes: characters of a path, and `%` with two hexadecimal
digits behind it. -/
inductive IsPathText : List Char → Prop where
  | nil : IsPathText []
  | char {c : Char} {rest : List Char} (hc : IsUnreserved c ∨ IsSubDelimiter c ∨ c = ':' ∨ c = '@')
      (hrest : IsPathText rest) : IsPathText (c :: rest)
  | escape {a b : Char} {rest : List Char} (ha : isHexDigit a = true) (hb : isHexDigit b = true)
      (hrest : IsPathText rest) : IsPathText ('%' :: a :: b :: rest)

/-- A segment of a base path. -/
structure IsSegment (segment : List Char) : Prop where
  nonempty : segment ≠ []
  text : IsPathText segment
  not_here : segment ≠ ['.']
  not_up : segment ≠ ['.', '.']

theorem isPathChar_iff (c : Char) :
    isPathChar c = true ↔ IsUnreserved c ∨ IsSubDelimiter c ∨ c = ':' ∨ c = '@' := by
  simp only [isPathChar, Char.isAlphanum, IsUnreserved, IsSubDelimiter, Bool.or_eq_true,
    List.contains_eq_mem, List.mem_cons, List.not_mem_nil, or_false, decide_eq_true_eq, or_assoc]

theorem isPathChar_of_isHexDigit {c : Char} (h : isHexDigit c = true) : isPathChar c = true := by
  have halnum : c.isAlphanum = true := by
    simp only [isHexDigit, Char.isAlphanum, Char.isAlpha, Char.isUpper, Char.isLower, Char.isDigit,
      Char.le_def, Bool.or_eq_true, Bool.and_eq_true, decide_eq_true_eq, UInt32.le_iff_toNat_le,
      ge_iff_le] at h ⊢
    change ((48 ≤ c.toNat ∧ c.toNat ≤ 57) ∨ (97 ≤ c.toNat ∧ c.toNat ≤ 102)) ∨
      (65 ≤ c.toNat ∧ c.toNat ≤ 70) at h
    change ((65 ≤ c.toNat ∧ c.toNat ≤ 90) ∨ (97 ≤ c.toNat ∧ c.toNat ≤ 122)) ∨
      (48 ≤ c.toNat ∧ c.toNat ≤ 57)
    omega
  simp [isPathChar, halnum]

theorem not_isPathChar_percent : ¬isPathChar '%' = true := by decide

/-- The two passes over a segment accept what a path may hold. -/
theorem isPathText_iff (cs : List Char) : IsPathText cs ↔
    (∀ c ∈ cs, isPathChar c = true ∨ c = '%') ∧ hasValidEscapes cs = true := by
  -- By induction along the pass for escapes, which takes an escape in one step of three characters.
  fun_induction hasValidEscapes cs with
  | case1 => simp [IsPathText.nil]
  | case2 a b rest ih =>
    simp only [Bool.and_eq_true, List.forall_mem_cons]
    constructor
    · intro h
      cases h with
      -- A percent sign stands for itself nowhere.
      | char hc _ => exact absurd ((isPathChar_iff _).2 hc) not_isPathChar_percent
      | escape ha hb hrest =>
        obtain ⟨hchars, hescapes⟩ := ih.1 hrest
        exact ⟨⟨.inr trivial, .inl (isPathChar_of_isHexDigit ha),
          .inl (isPathChar_of_isHexDigit hb), hchars⟩, ⟨ha, hb⟩, hescapes⟩
    · rintro ⟨⟨-, -, -, hchars⟩, ⟨ha, hb⟩, hescapes⟩
      exact .escape ha hb (ih.2 ⟨hchars, hescapes⟩)
  | case3 c rest hplain ih =>
    simp only [Bool.and_eq_true, bne_iff_ne, List.forall_mem_cons]
    constructor
    · intro h
      cases h with
      | char hc hrest =>
        have hpath := (isPathChar_iff c).2 hc
        obtain ⟨hchars, hescapes⟩ := ih.1 hrest
        exact ⟨⟨.inl hpath, hchars⟩, fun he => not_isPathChar_percent (he ▸ hpath), hescapes⟩
      | escape => exact absurd rfl (hplain _ _ _ rfl)
    · rintro ⟨⟨hc, hchars⟩, hne, hescapes⟩
      exact .char ((isPathChar_iff c).1 (hc.resolve_right hne)) (ih.2 ⟨hchars, hescapes⟩)

/-- The check of a segment accepts the grammar of segments. -/
theorem checkSegment_eq_ok_iff (segment : List Char) :
    checkSegment segment = .ok () ↔ IsSegment segment := by
  unfold checkSegment
  split
  · rename_i hempty
    exact iff_of_false (by simp) fun h => h.nonempty (by simpa using hempty)
  · rename_i hne
    split
    · rename_i hdots
      exact iff_of_false (by simp) fun h => by simp [h.not_here, h.not_up] at hdots
    · rename_i hdots
      -- Once nothing and the dots are ruled out, only the characters are left to check.
      have htext : IsSegment segment ↔ IsPathText segment := by
        simp only [Bool.or_eq_true, decide_eq_true_eq, not_or] at hdots
        exact ⟨fun h => h.text, fun h => ⟨by simpa using hne, h, hdots.1, hdots.2⟩⟩
      rw [htext, isPathText_iff]
      split
      · rename_i c hfind
        have hfit := List.find?_some hfind
        refine iff_of_false (by simp) fun h => ?_
        rcases h.1 c (List.mem_of_find?_eq_some hfind) with hc | hc <;> simp [hc] at hfit
      · rename_i hfind
        have hchars : ∀ c ∈ segment, isPathChar c = true ∨ c = '%' := by
          intro c hc
          have hfit := List.find?_eq_none.1 hfind c hc
          simpa [or_iff_not_imp_left] using hfit
        split
        · rename_i hescapes
          exact iff_of_true rfl ⟨hchars, hescapes⟩
        · rename_i hescapes
          exact iff_of_false (by simp) fun h => hescapes h.2

/-- No segment holds a slash. -/
theorem IsSegment.no_slash {segment : List Char} (h : IsSegment segment) : '/' ∉ segment := by
  intro hmem
  rcases ((isPathText_iff segment).1 h.text).1 '/' hmem with hpath | hpercent
  · exact absurd hpath (by decide)
  · exact absurd hpercent (by decide)

namespace BasePath

/-! ## Texts of base paths -/

/-- A text with at most one slash in front of it and at most one behind it. -/
inductive Framed (body : List Char) : List Char → Prop where
  | bare : Framed body body
  | front : Framed body ('/' :: body)
  | back : Framed body (body ++ ['/'])
  | both : Framed body ('/' :: (body ++ ['/']))

/-- Nothing, or segments with single slashes between them. -/
def IsBody (body : List Char) : Prop :=
  body = [] ∨ ∃ segments, segments ≠ [] ∧ (∀ segment ∈ segments, IsSegment segment) ∧
    body = joinWith ['/'] segments

/-- The base path of a body: the root, or a slash and the body. -/
def ofBody (body : List Char) : BasePath :=
  if body = [] then root else ⟨String.ofList ('/' :: body)⟩

/-- A body is nothing, or what splits into segments. -/
theorem isBody_iff {body : List Char} :
    IsBody body ↔ body = [] ∨ ∀ segment ∈ splitOn '/' body, checkSegment segment = .ok () := by
  simp only [IsBody, checkSegment_eq_ok_iff]
  refine or_congr_right ⟨?_, fun h => ?_⟩
  · rintro ⟨segments, hne, hsegments, rfl⟩
    rwa [splitOn_joinWith hne fun segment hsegment => (hsegments segment hsegment).no_slash]
  · exact ⟨splitOn '/' body, splitOn_ne_nil '/' body, h, (joinWith_splitOn '/' body).symm⟩

/-- A body that is not empty neither starts nor ends with a slash. -/
theorem ends_of_isBody {body : List Char} (h : IsBody body) (hne : body ≠ []) :
    body.head? ≠ some '/' ∧ body.getLast? ≠ some '/' := by
  have hcheck := (isBody_iff.1 h).resolve_left hne
  refine ⟨fun hhead => ?_, (body_ends hne hcheck).2⟩
  obtain ⟨rest, rfl⟩ := List.head?_eq_some_iff.1 hhead
  exact (of_checkSegment (hcheck [] (by simp [splitOn]))).1 rfl

/-! ## Taking the slashes off -/

/-- Blanks aside, a text is what is left of it, between at most one slash at either end. -/
theorem framed_inner (s : String) : Framed (inner s) (trimBoth s.toList) := by
  rw [inner]
  have hfront := eq_or_eq_cons_dropFirst '/' (trimBoth s.toList)
  have hback := eq_or_eq_dropLast_append '/' (dropFirst '/' (trimBoth s.toList))
  generalize trimBoth s.toList = text at hfront hback
  generalize dropFirst '/' text = rest at hfront hback
  generalize dropLast '/' rest = body at hback
  rcases hback with rfl | rfl
  · rcases hfront with rfl | rfl
    · exact .bare
    · exact .front
  · rcases hfront with rfl | rfl
    · exact .back
    · exact .both

/-- A body comes out whole from between the slashes. -/
theorem inner_of_framed {body : List Char} {s : String} (hbody : IsBody body)
    (h : Framed body (trimBoth s.toList)) : inner s = body := by
  rw [inner]
  generalize trimBoth s.toList = text at h
  by_cases hne : body = []
  · subst hne
    cases h <;> rfl
  · obtain ⟨hhead, hlast⟩ := ends_of_isBody hbody hne
    cases h with
    | bare => rw [dropFirst_of_head? hhead, dropLast_of_getLast? hlast]
    | front => rw [dropFirst_cons_self, dropLast_of_getLast? hlast]
    | back =>
      have hfront : (body ++ ['/']).head? ≠ some '/' := by
        rwa [List.head?_append_of_ne_nil _ hne]
      rw [dropFirst_of_head? hfront, dropLast_append_self]
    | both => rw [dropFirst_cons_self, dropLast_append_self]

/-- Reading gives the base path of what stands between the slashes, if that is a body. -/
theorem parse_eq_ok_iff {s : String} {b : BasePath} :
    parse s = .ok b ↔ IsBody (inner s) ∧ b = ofBody (inner s) := by
  constructor
  · intro h
    rcases of_parse h with ⟨hempty, rfl⟩ | ⟨hne, htext, hcheck⟩
    · rw [hempty]
      exact ⟨.inl rfl, rfl⟩
    · refine ⟨isBody_iff.2 (.inr hcheck), ?_⟩
      rw [ofBody, if_neg hne, ← htext, String.ofList_toList]
  · rintro ⟨hbody, rfl⟩
    rw [parse, ofBody]
    by_cases hempty : inner s = []
    · simp [hempty]
    · have hcheck := (isBody_iff.1 hbody).resolve_left hempty
      simp only [List.isEmpty_iff, hempty, if_false, checkSegments_of_forall hcheck]
      rfl

/-- The text of a base path that is not the root starts with a slash, ends with none and has no
empty segment. -/
theorem canonical_ofBody {body : List Char} (hbody : IsBody body)
    (hroot : (ofBody body).isRoot = false) :
    (ofBody body).text.toList.head? = some '/' ∧ (ofBody body).text.toList.getLast? ≠ some '/' ∧
      [] ∉ splitOn '/' (ofBody body).text.toList.tail := by
  have hne : body ≠ [] := by
    rintro rfl
    simp [ofBody, root, isRoot] at hroot
  have hcheck := (isBody_iff.1 hbody).resolve_left hne
  have htext : (ofBody body).text.toList = '/' :: body := by simp [ofBody, hne]
  rw [htext]
  refine ⟨rfl, ?_, fun hmem => (of_checkSegment (hcheck [] hmem)).1 rfl⟩
  rw [List.getLast?_cons_of_ne_nil hne]
  exact (ends_of_isBody hbody hne).2

/-- A text is read exactly when, without the blanks around it and at most one slash at either end,
it is nothing or segments between single slashes. What is read is the root or a slash and these
segments, and it is read again as itself. -/
theorem parse_iff_grammar (s : String) (b : BasePath) :
    (parse s = .ok b ↔ ∃ body, Framed body (trimBoth s.toList) ∧ IsBody body ∧ b = ofBody body) ∧
    (parse s = .ok b → parse b.display = .ok b ∧ (b.isRoot = false →
      b.text.toList.head? = some '/' ∧ b.text.toList.getLast? ≠ some '/' ∧
        [] ∉ splitOn '/' b.text.toList.tail)) := by
  refine ⟨⟨fun h => ?_, fun ⟨body, hframed, hbody, hb⟩ => ?_⟩, fun h => ?_⟩
  · obtain ⟨hbody, hb⟩ := parse_eq_ok_iff.1 h
    exact ⟨inner s, framed_inner s, hbody, hb⟩
  · rw [parse_eq_ok_iff, inner_of_framed hbody hframed]
    exact ⟨hbody, hb⟩
  · refine ⟨parse_display h, fun hroot => ?_⟩
    obtain ⟨hbody, rfl⟩ := parse_eq_ok_iff.1 h
    exact canonical_ofBody hbody hroot

/-- A base path with an escape and a colon, between blanks and with a slash behind it. -/
theorem parse_iff_grammar_escape : parse " my%20docs/a:b/ " = .ok ⟨"/my%20docs/a:b"⟩ ∧
    parse "/my%20docs/a:b" = .ok ⟨"/my%20docs/a:b"⟩ ∧
    (∃ body, Framed body "my%20docs/a:b/".toList ∧ IsBody body) ∧
    [] ∉ splitOn '/' "my%20docs/a:b".toList := by
  obtain ⟨hread, hcanonical⟩ := parse_iff_grammar " my%20docs/a:b/ " ⟨"/my%20docs/a:b"⟩
  have hparse : parse " my%20docs/a:b/ " = .ok ⟨"/my%20docs/a:b"⟩ := by decide +kernel
  obtain ⟨body, hframed, hbody, -⟩ := hread.1 hparse
  obtain ⟨hagain, htext⟩ := hcanonical hparse
  exact ⟨hparse, hagain, ⟨body, hframed, hbody⟩, (htext (by decide)).2.2⟩

end BasePath

end DocSite
