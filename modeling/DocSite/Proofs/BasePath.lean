import DocSite.BasePath
import DocSite.Proofs.Text

/-!
# Base paths read back

  A base path that was read is the root, or a slash and segments that passed the
  grammar. Such a text has no blanks and no slash at its end, so reading what is
  displayed takes nothing off but the slash at the front.
-/

namespace DocSite

open DocSite.Text

/-! ## Segments -/

theorem isGraphic_of_isPathChar {c : Char} (h : isPathChar c = true) : IsGraphic c := by
  rw [isPathChar, Bool.or_eq_true] at h
  rcases h with h | h
  · exact isGraphic_of_isAlphanum h
  · have hmarks : ∀ x ∈ ['-', '.', '_', '~', '!', '$', '&', '\'', '(', ')', '*', '+', ',', ';', '=',
        ':', '@'], IsGraphic x := forall_isGraphic (by decide)
    exact hmarks c (by simpa using h)

/-- What a segment that passes its check is made of. -/
theorem of_checkSegment {segment : List Char} (h : checkSegment segment = .ok ()) :
    segment ≠ [] ∧ ∀ c ∈ segment, isPathChar c = true ∨ c = '%' := by
  unfold checkSegment at h
  split at h
  · simp at h
  · rename_i hne
    split at h
    · simp at h
    · split at h
      · simp at h
      · rename_i hfind
        refine ⟨by simpa using hne, ?_⟩
        intro c hc
        have hfit := List.find?_eq_none.1 hfind c hc
        cases hpath : isPathChar c with
        | true => exact .inl rfl
        | false => exact .inr (by simpa [hpath] using hfit)

theorem of_checkSegments {segments : List (List Char)} (h : checkSegments segments = .ok ()) :
    ∀ segment ∈ segments, checkSegment segment = .ok () := by
  induction segments with
  | nil => simp
  | cons first rest ih =>
    rw [checkSegments] at h
    cases hfirst : checkSegment first with
    | error e =>
      rw [hfirst] at h
      simp [bind, Except.bind] at h
    | ok =>
      rw [hfirst] at h
      intro segment hsegment
      rcases List.mem_cons.1 hsegment with rfl | hsegment
      · exact hfirst
      · exact ih h segment hsegment

namespace BasePath

/-! ## Whole base paths -/

/-- What a base path that was read is made of. -/
theorem of_parse {s : String} {b : BasePath} (h : parse s = .ok b) :
    (inner s = [] ∧ b = root) ∨ (inner s ≠ [] ∧ b.text.toList = '/' :: inner s ∧
      ∀ segment ∈ splitOn '/' (inner s), checkSegment segment = .ok ()) := by
  simp only [parse] at h
  split at h
  · rename_i hempty
    exact .inl ⟨by simpa using hempty, (Except.ok.inj h).symm⟩
  · rename_i hne
    refine .inr ⟨by simpa using hne, ?_⟩
    cases hcheck : checkSegments (splitOn '/' (inner s)) with
    | error e =>
      rw [hcheck] at h
      simp [bind, Except.bind] at h
    | ok =>
      rw [hcheck] at h
      have hb : b = ⟨String.ofList ('/' :: inner s)⟩ := (Except.ok.inj h).symm
      exact ⟨by simp [hb], of_checkSegments hcheck⟩

/-- The body of a base path holds no blanks, and no slash ends it. -/
theorem body_ends {body : List Char} (hne : body ≠ [])
    (h : ∀ segment ∈ splitOn '/' body, checkSegment segment = .ok ()) :
    (∀ c ∈ body, isBlank c = false) ∧ body.getLast? ≠ some '/' := by
  constructor
  · intro c hc
    by_cases hslash : c = '/'
    · subst hslash
      decide
    · obtain ⟨segment, hsegment, hmem⟩ := exists_mem_splitOn hc hslash
      rcases (of_checkSegment (h segment hsegment)).2 c hmem with hpath | rfl
      · exact (isGraphic_of_isPathChar hpath).not_blank
      · decide
  · intro hlast
    obtain ⟨front, rfl⟩ := List.getLast?_eq_some_iff.1 hlast
    have hempty : [] ∈ splitOn '/' (front ++ ['/']) := by
      simp [splitOn_append_cons, splitOn]
    exact (of_checkSegment (h [] hempty)).1 rfl

/-- Reading what is displayed takes the slash at the front off and nothing else. -/
theorem inner_slash {body : List Char} (hne : body ≠ [])
    (h : ∀ segment ∈ splitOn '/' body, checkSegment segment = .ok ()) :
    inner (String.ofList ('/' :: body)) = body := by
  obtain ⟨hblank, hlast⟩ := body_ends hne h
  have htrim : trimBoth ('/' :: body) = '/' :: body := by
    apply trimBoth_of_not_blank
    intro c hc
    rcases List.mem_cons.1 hc with rfl | hc
    · decide
    · exact hblank c hc
  rw [inner, String.toList_ofList, htrim, dropFirst, if_pos rfl, dropLast_of_getLast? hlast]

theorem checkSegments_of_forall {segments : List (List Char)}
    (h : ∀ segment ∈ segments, checkSegment segment = .ok ()) :
    checkSegments segments = .ok () := by
  induction segments with
  | nil => rfl
  | cons first rest ih =>
    rw [checkSegments, h first (by simp)]
    exact ih fun segment hsegment => h segment (by simp [hsegment])

/-- A base path that was read is read again from what is displayed. -/
theorem parse_display {s : String} {b : BasePath} (h : parse s = .ok b) :
    parse b.display = .ok b := by
  rcases of_parse h with ⟨-, rfl⟩ | ⟨hne, htext, hcheck⟩
  · rfl
  · generalize inner s = body at hne htext hcheck
    have hb : b = ⟨String.ofList ('/' :: body)⟩ := by
      cases b
      simp [← htext]
    have hdisplay : b.display = String.ofList ('/' :: body) := by
      simp [display, isRoot, hb]
    have hnonempty : body.isEmpty = false := by simpa using hne
    rw [hdisplay, parse]
    simp only [inner_slash hne hcheck, hnonempty, checkSegments_of_forall hcheck]
    exact congrArg Except.ok hb.symm

end BasePath

end DocSite
