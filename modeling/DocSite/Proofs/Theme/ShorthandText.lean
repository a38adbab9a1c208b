import DocSite.Proofs.Theme.ShorthandWords

/-!
# What cutting a shorthand leaves out

  The words of a shorthand, put one behind the other, are its text without the
  blanks outside parentheses: a cut drops the blank that it is made at and nothing
  else. A place is outside parentheses when as many are opened as are closed in
  front of it, which is what the depth of the cutting counts.
-/

namespace DocSite.Shorthand

open DocSite.Text

/-! ## Places outside parentheses -/

/-- No parenthesis is open behind a text: as many are opened in it as are closed. -/
def Outside (front : List Char) : Prop := front.count '(' = front.count ')'

instance (front : List Char) : Decidable (Outside front) :=
  inferInstanceAs (Decidable (_ = _))

/-- The depth behind a text is zero exactly outside parentheses. -/
theorem outside_iff_of_depth {front : List Char} {depth : Nat}
    (h : front.foldlM depthStep? 0 = some depth) : Outside front ↔ depth = 0 := by
  have hcount := (foldlM_depthStep?_eq_some_iff.1 h).2
  rw [Outside]
  omega

/-- A shorthand is cut at the commas and blanks outside parentheses. -/
theorem cutsAt_iff_of_depth {front : List Char} {depth : Nat}
    (h : front.foldlM depthStep? 0 = some depth) {c : Char} :
    cutsAt depth c = true ↔ Outside front ∧ (c = ',' ∨ isBlank c = true) := by
  rw [outside_iff_of_depth h, cutsAt, Bool.and_eq_true, Bool.or_eq_true, beq_iff_eq, beq_iff_eq]

/-- The depth behind one more character. -/
theorem depth_append_singleton {front : List Char} {depth depth' : Nat} {c : Char}
    (h : front.foldlM depthStep? 0 = some depth) (hstep : depthStep? depth c = some depth') :
    (front ++ [c]).foldlM depthStep? 0 = some depth' := by
  rw [List.foldlM_append, h]
  show (depthStep? depth c).bind some = some depth'
  rw [hstep]
  rfl

/-! ## Nothing but blanks is lost -/

/-- What follows a text, without its blanks outside parentheses. -/
def solidAfter (front : List Char) : List Char → List Char
  | [] => []
  | c :: cs =>
    if isBlank c = true ∧ Outside front then solidAfter (front ++ [c]) cs
    else c :: solidAfter (front ++ [c]) cs

/-- A text without its blanks outside parentheses. -/
def solid (cs : List Char) : List Char := solidAfter [] cs

theorem flatten_closeWord (word : List Char) (words : List (List Char)) :
    (closeWord word words).reverse.flatten = words.reverse.flatten ++ word.reverse := by
  rw [closeWord]
  cases word with
  | nil => simp
  | cons c word => simp

/-- The words that are finished by a cut hold the character of the cut if it is a comma. -/
theorem flatten_cutWords (c : Char) (word : List Char) (words : List (List Char)) :
    (cutWords c word words).reverse.flatten =
      words.reverse.flatten ++ word.reverse ++ if c = ',' then [','] else [] := by
  rw [cutWords]
  by_cases hcomma : c = ','
  · rw [if_pos hcomma, if_pos hcomma, List.reverse_cons, List.flatten_append, flatten_closeWord,
      List.flatten_singleton]
  · rw [if_neg hcomma, if_neg hcomma, flatten_closeWord, List.append_nil]

/-- The finished words, the open one and the rest without its blanks make up the result. -/
theorem flatten_of_split {front : List Char} {depth : Nat} {word : List Char}
    {words result : List (List Char)} {cs : List Char}
    (hdepth : front.foldlM depthStep? 0 = some depth)
    (h : split depth word words cs = some result) :
    result.flatten = words.reverse.flatten ++ word.reverse ++ solidAfter front cs := by
  induction cs generalizing front depth word words with
  | nil =>
    rw [split] at h
    by_cases hzero : depth = 0
    · rw [if_pos hzero] at h
      obtain rfl := Option.some.inj h
      rw [flatten_closeWord, solidAfter, List.append_nil]
    · rw [if_neg hzero] at h
      cases h
  | cons c cs ih =>
    rw [split_cons] at h
    by_cases hcut : cutsAt depth c = true
    · obtain ⟨hzero, hstep⟩ := depthStep?_of_cutsAt hcut
      obtain ⟨houtside, hc⟩ := (cutsAt_iff_of_depth hdepth).1 hcut
      -- A cut ends the open word, and the character itself is kept only if it is a comma.
      rw [if_pos hcut] at h
      rw [ih (depth_append_singleton hdepth hstep) h, flatten_cutWords, List.reverse_nil,
        List.append_nil, solidAfter]
      by_cases hcomma : c = ','
      · -- A comma is no blank, so it is kept as a word of its own.
        have hblank : ¬ (isBlank c = true ∧ Outside front) := by
          rw [hcomma]
          rintro ⟨hblank, -⟩
          exact absurd hblank (by decide)
        rw [if_pos hcomma, if_neg hblank, hcomma, List.append_assoc, List.singleton_append]
      · have hblank : isBlank c = true := hc.resolve_left hcomma
        rw [if_neg hcomma, if_pos ⟨hblank, houtside⟩, List.append_nil]
    · -- Without a cut the character goes to the open word.
      rw [if_neg hcut] at h
      obtain ⟨depth', hstep, hrest⟩ := Option.bind_eq_some_iff.1 h
      have hkept : ¬ (isBlank c = true ∧ Outside front) := by
        rintro ⟨hblank, houtside⟩
        exact hcut ((cutsAt_iff_of_depth hdepth).2 ⟨houtside, .inr hblank⟩)
      rw [ih (depth_append_singleton hdepth hstep) hrest, solidAfter, if_neg hkept,
        List.reverse_cons]
      simp only [List.append_assoc, List.singleton_append]

/-! ## Words by their parentheses -/

/-- A text with matching parentheses that, unless it is a comma, has no comma and no blank
outside of them. -/
structure IsWhole (word : List Char) : Prop where
  ne_nil : word ≠ []
  balanced : Balanced word
  uncut : word = [','] ∨ ∀ front c back, word = front ++ c :: back → Outside front →
    c ≠ ',' ∧ isBlank c = false

/-- A run that is cut nowhere: its parentheses are counted as in any text, and no cut is made at
any of its characters. -/
theorem not_cutsAt_of_run {depth final : Nat} {run : List Char}
    (h : run.foldlM runStep? depth = some final) :
    run.foldlM depthStep? depth = some final ∧
      ∀ front c back, run = front ++ c :: back →
        ∃ depth', front.foldlM depthStep? depth = some depth' ∧ cutsAt depth' c = false := by
  induction run generalizing depth with
  | nil =>
    refine ⟨h, ?_⟩
    intro front c back hrun
    simp at hrun
  | cons x run ih =>
    rw [List.foldlM_cons, runStep?] at h
    -- A run stops at the first place that would be cut, so this one is not.
    by_cases hcut : cutsAt depth x = true
    · rw [if_pos hcut] at h
      cases h
    · rw [if_neg hcut] at h
      obtain ⟨depth', hstep, hrest⟩ := Option.bind_eq_some_iff.1 h
      obtain ⟨hdepth, hplaces⟩ := ih hrest
      have hcons (cs : List Char) :
          (x :: cs).foldlM depthStep? depth = cs.foldlM depthStep? depth' := by
        rw [List.foldlM_cons, hstep]
        rfl
      refine ⟨(hcons run).trans hdepth, ?_⟩
      intro front c back hrun
      cases front with
      | nil =>
        obtain ⟨rfl, -⟩ := List.cons.inj hrun
        exact ⟨depth, rfl, by simpa using hcut⟩
      | cons y front =>
        obtain ⟨rfl, htail⟩ := List.cons.inj hrun
        obtain ⟨depth'', hfront, hc⟩ := hplaces front c back htail
        exact ⟨depth'', (hcons front).trans hfront, hc⟩

theorem IsWord.isWhole {word : List Char} (h : IsWord word) : IsWhole word := by
  obtain rfl | ⟨hne, hrun⟩ := h
  · exact ⟨by simp, balanced_iff.2 rfl, .inl rfl⟩
  · obtain ⟨hdepth, hplaces⟩ := not_cutsAt_of_run hrun
    refine ⟨hne, balanced_iff.2 hdepth, .inr ?_⟩
    intro front c back hword houtside
    obtain ⟨depth, hfront, hcut⟩ := hplaces front c back hword
    have hkept : ¬ (c = ',' ∨ isBlank c = true) := by
      intro hc
      rw [(cutsAt_iff_of_depth hfront).2 ⟨houtside, hc⟩] at hcut
      cases hcut
    simpa using hkept

/-! ## The words of a text -/

/-- A text has no words exactly when a front of it closes more parentheses than it opens, or when
the whole of it does not close as many as it opens. -/
theorem words?_eq_none_iff {cs : List Char} :
    words? cs = none ↔ (∃ front, front <+: cs ∧ front.count '(' < front.count ')') ∨
      cs.count ')' ≠ cs.count '(' := by
  rw [← Option.not_isSome_iff_eq_none, isSome_words?_iff, Balanced, not_and_or]
  push Not
  rfl

/-- Cutting a text into words loses nothing but its blanks outside parentheses, and the words
joined by single blanks are cut in the same way again. -/
theorem words?_lossless (cs : List Char) :
    (words? cs = none ↔ (∃ front, front <+: cs ∧ front.count '(' < front.count ')') ∨
      cs.count ')' ≠ cs.count '(') ∧
    ∀ words, words? cs = some words →
      words.flatten = solid cs ∧ (∀ word ∈ words, IsWhole word) ∧
        words? (joinWith [' '] words) = some words := by
  refine ⟨words?_eq_none_iff, ?_⟩
  intro words h
  have hwords := isWord_of_words? h
  have hdepth : ([] : List Char).foldlM depthStep? 0 = some 0 := rfl
  exact ⟨flatten_of_split hdepth h, fun word hword => (hwords word hword).isWhole,
    words?_joinWith hwords⟩

/-- Blanks inside parentheses stay, those outside go, and a comma outside is a word. -/
theorem words?_lossless_nested :
    words? "a  ,b(c, (d)) ".toList = some ["a".toList, ",".toList, "b(c, (d))".toList] ∧
      "a,b(c, (d))".toList = solid "a  ,b(c, (d)) ".toList := by
  have hwords : words? "a  ,b(c, (d)) ".toList =
      some ["a".toList, ",".toList, "b(c, (d))".toList] := by decide +kernel
  exact ⟨hwords, ((words?_lossless _).2 _ hwords).1⟩

end DocSite.Shorthand
