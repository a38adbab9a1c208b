import DocSite.Proofs.Text
import DocSite.Theme.Animation

/-!
# The words of a shorthand

  A shorthand is cut into words in one pass that counts open parentheses. It has
  words exactly when its parentheses match. A word is a comma, or a text that is
  cut nowhere: its parentheses match, and it has no blank and no comma outside of
  them. That is all there is to a word, so words in any order, joined by blanks,
  are the words of the text they make.
-/

namespace DocSite.Shorthand

open DocSite.Text

/-! ## One step -/

/-- The depth behind a character; none if it closes a parenthesis and none is open. -/
def depthStep? (depth : Nat) (c : Char) : Option Nat :=
  if c = '(' then some (depth + 1)
  else if c = ')' then
    match depth with
    | 0 => none
    | depth + 1 => some depth
  else some depth

/-- Whether a text is cut at a character: at commas and blanks outside parentheses. -/
def cutsAt (depth : Nat) (c : Char) : Bool := depth == 0 && (c == ',' || isBlank c)

/-- The words that are finished when a text is cut at a character. -/
def cutWords (c : Char) (word : List Char) (words : List (List Char)) : List (List Char) :=
  if c = ',' then [','] :: closeWord word words else closeWord word words

/-- A cut leaves the depth as it is. -/
theorem depthStep?_of_cutsAt {depth : Nat} {c : Char} (h : cutsAt depth c = true) :
    depth = 0 ∧ depthStep? depth c = some 0 := by
  rw [cutsAt, Bool.and_eq_true, beq_iff_eq] at h
  obtain ⟨rfl, hc⟩ := h
  refine ⟨rfl, ?_⟩
  have hopen : c ≠ '(' := by
    intro he
    rw [he] at hc
    revert hc
    decide
  have hclose : c ≠ ')' := by
    intro he
    rw [he] at hc
    revert hc
    decide
  rw [depthStep?, if_neg hopen, if_neg hclose]

/-- What the next character does: the open word ends, or the character goes to it. -/
theorem split_cons (depth : Nat) (word : List Char) (words : List (List Char)) (c : Char)
    (cs : List Char) :
    split depth word words (c :: cs) =
      if cutsAt depth c then split 0 [] (cutWords c word words) cs
      else (depthStep? depth c).bind fun depth => split depth (c :: word) words cs := by
  have hparens : isBlank '(' = false ∧ isBlank ')' = false := by decide
  rw [split.eq_def]
  by_cases hopen : c = '('
  · simp [hopen, cutsAt, depthStep?, hparens]
  · by_cases hclose : c = ')'
    · cases depth with
      | zero => simp [hclose, cutsAt, depthStep?, hparens]
      | succ depth => simp [hclose, cutsAt, depthStep?]
    · by_cases hcomma : c = ','
      · cases depth with
        | zero => simp [hcomma, cutsAt, cutWords]
        | succ depth => simp [hcomma, cutsAt, depthStep?]
      · cases depth with
        | zero => simp [hopen, hclose, hcomma, cutsAt, cutWords, depthStep?]
        | succ depth => simp [hopen, hclose, cutsAt, depthStep?]

/-! ## Matching parentheses -/

/-- Parentheses match: none is closed before it is opened, and all are closed in the end. -/
def Balanced (cs : List Char) : Prop :=
  (∀ front, front <+: cs → front.count ')' ≤ front.count '(') ∧ cs.count ')' = cs.count '('

/-- One character changes the depth by the parentheses that it opens and closes. -/
theorem depthStep?_eq_some_iff {depth depth' : Nat} {c : Char} :
    depthStep? depth c = some depth' ↔ depth' + [c].count ')' = depth + [c].count '(' := by
  by_cases hopen : c = '('
  · simp [depthStep?, hopen, eq_comm]
  · by_cases hclose : c = ')'
    · cases depth with
      | zero => simp [depthStep?, hclose]
      | succ depth => simp [depthStep?, hclose, eq_comm]
    · simp [depthStep?, hopen, hclose, eq_comm]

/-- The depth counts the parentheses that are open, and no front of the text closes more. -/
theorem foldlM_depthStep?_eq_some_iff {depth final : Nat} {cs : List Char} :
    cs.foldlM depthStep? depth = some final ↔
      (∀ front, front <+: cs → front.count ')' ≤ depth + front.count '(') ∧
        final + cs.count ')' = depth + cs.count '(' := by
  -- Both counts are taken one character at a time.
  have hcons (x c : Char) (cs : List Char) : (c :: cs).count x = [c].count x + cs.count x := by
    rw [← List.count_append, List.singleton_append]
  induction cs generalizing depth with
  | nil =>
    constructor
    · intro h
      obtain rfl := Option.some.inj h
      refine ⟨?_, rfl⟩
      intro front hfront
      rw [List.prefix_nil.1 hfront]
      exact Nat.zero_le _
    · intro h
      exact congrArg some h.2.symm
  | cons c cs ih =>
    have hclose := hcons ')' c
    have hopen := hcons '(' c
    rw [List.foldlM_cons, hclose, hopen]
    constructor
    · intro h
      -- The step fails only when more are closed than were opened, which the fronts rule out.
      obtain ⟨depth', hstep, hrest⟩ := Option.bind_eq_some_iff.1 h
      rw [depthStep?_eq_some_iff] at hstep
      obtain ⟨hfronts, hfinal⟩ := ih.1 hrest
      refine ⟨?_, by omega⟩
      intro front hfront
      rcases List.prefix_cons_iff.1 hfront with rfl | ⟨tail, rfl, htail⟩
      · exact Nat.zero_le _
      · have hle := hfronts tail htail
        rw [hclose, hopen]
        omega
    · intro h
      obtain ⟨hfronts, hfinal⟩ := h
      -- The front of one character says that the step does not fail.
      have hone := hfronts [c] (List.prefix_cons_iff.2 (.inr ⟨[], rfl, List.nil_prefix⟩))
      obtain ⟨depth', hdepth'⟩ := Nat.exists_eq_add_of_le hone
      have hstep : depthStep? depth c = some depth' := depthStep?_eq_some_iff.2 (by omega)
      rw [hstep]
      apply ih.2
      refine ⟨?_, by omega⟩
      intro front hfront
      have hle := hfronts (c :: front) (List.prefix_cons_iff.2 (.inr ⟨front, rfl, hfront⟩))
      rw [hclose, hopen] at hle
      omega

theorem balanced_iff {cs : List Char} : Balanced cs ↔ cs.foldlM depthStep? 0 = some 0 := by
  rw [foldlM_depthStep?_eq_some_iff, Balanced]
  simp only [Nat.zero_add]

/-- Cutting fails exactly when the parentheses that are left do not match. -/
theorem isSome_split_iff {depth : Nat} {word : List Char} {words : List (List Char)}
    {cs : List Char} :
    (split depth word words cs).isSome = true ↔ cs.foldlM depthStep? depth = some 0 := by
  induction cs generalizing depth word words with
  | nil =>
    rw [split]
    by_cases hdepth : depth = 0
    · simp [hdepth]
    · simp [hdepth]
  | cons c cs ih =>
    rw [split_cons, List.foldlM_cons]
    by_cases hcut : cutsAt depth c = true
    · obtain ⟨rfl, hstep⟩ := depthStep?_of_cutsAt hcut
      rw [if_pos hcut, hstep]
      exact ih
    · rw [if_neg hcut]
      cases hstep : depthStep? depth c with
      -- A parenthesis too many ends both.
      | none => simp
      | some depth' => exact ih

/-- A text has words exactly when its parentheses match. -/
theorem isSome_words?_iff {cs : List Char} : (words? cs).isSome = true ↔ Balanced cs := by
  rw [words?, isSome_split_iff, balanced_iff]

/-! ## Words -/

/-- The depth behind a character that a text is not cut at. -/
def runStep? (depth : Nat) (c : Char) : Option Nat :=
  if cutsAt depth c then none else depthStep? depth c

/-- A word of a shorthand: a comma, or a text with matching parentheses that is cut nowhere. -/
def IsWord (word : List Char) : Prop :=
  word = [','] ∨ word ≠ [] ∧ word.foldlM runStep? 0 = some 0

/-- A run that is cut nowhere goes to the open word as a whole. -/
theorem split_run {depth final : Nat} {run : List Char} (h : run.foldlM runStep? depth = some final)
    (word : List Char) (words : List (List Char)) (rest : List Char) :
    split depth word words (run ++ rest) = split final (run.reverse ++ word) words rest := by
  induction run generalizing depth word with
  | nil =>
    obtain rfl := Option.some.inj h
    rfl
  | cons c run ih =>
    rw [List.foldlM_cons, runStep?] at h
    by_cases hcut : cutsAt depth c = true
    · rw [if_pos hcut] at h
      cases h
    · rw [if_neg hcut] at h
      obtain ⟨depth', hstep, hrun⟩ := Option.bind_eq_some_iff.1 h
      rw [List.cons_append, split_cons, if_neg hcut, hstep, Option.bind_some, ih hrun,
        List.reverse_cons, List.append_assoc]
      rfl

/-- A word is finished by the end of the text or by a blank behind it. -/
theorem split_word {word : List Char} (h : IsWord word) (words : List (List Char)) :
    split 0 [] words word = some (word :: words).reverse ∧
      ∀ rest, split 0 [] words (word ++ ' ' :: rest) = split 0 [] (word :: words) rest := by
  have hblank (open' : List Char) (words : List (List Char)) (rest : List Char) :
      split 0 open' words (' ' :: rest) = split 0 [] (closeWord open' words) rest := by
    rw [split_cons]
    rfl
  obtain rfl | ⟨hne, hrun⟩ := h
  · -- A comma is finished by itself.
    have hcomma (rest : List Char) :
        split 0 [] words (',' :: rest) = split 0 [] ([','] :: words) rest := by
      rw [split_cons]
      rfl
    refine ⟨hcomma [], ?_⟩
    intro rest
    show split 0 [] words (',' :: ' ' :: rest) = _
    rw [hcomma, hblank]
    rfl
  · -- Any other word is finished by what is behind it.
    have hclose : closeWord word.reverse words = word :: words := by
      rw [closeWord, if_neg (by simpa using hne), List.reverse_reverse]
    constructor
    · have hend := split_run hrun [] words []
      rw [List.append_nil, List.append_nil] at hend
      rw [hend, ← hclose]
      rfl
    · intro rest
      rw [split_run hrun, List.append_nil, hblank, hclose]

/-- Words joined by blanks are the words of the text they make. -/
theorem words?_joinWith {words : List (List Char)} (h : ∀ word ∈ words, IsWord word) :
    words? (joinWith [' '] words) = some words := by
  -- The words that are finished already are only carried along.
  have hsplit (done : List (List Char)) :
      split 0 [] done (joinWith [' '] words) = some (done.reverse ++ words) := by
    induction words generalizing done with
    | nil => exact congrArg some (List.append_nil _).symm
    | cons word rest ih =>
      obtain ⟨hlast, hmore⟩ := split_word (h word List.mem_cons_self) done
      cases rest with
      | nil =>
        show split 0 [] done word = _
        rw [hlast, List.reverse_cons]
      | cons next rest =>
        have hrest := ih (fun w hw => h w (List.mem_cons_of_mem _ hw)) (word :: done)
        rw [joinWith_cons_cons, List.append_assoc]
        show split 0 [] done (word ++ ' ' :: joinWith [' '] (next :: rest)) = _
        rw [hmore, hrest, List.reverse_cons, List.append_assoc]
        rfl
  exact hsplit []

/-- An open word that is finished at depth zero is a word. -/
theorem isWord_of_mem_closeWord {word : List Char} {words : List (List Char)}
    (hwords : ∀ w ∈ words, IsWord w) (hword : word.reverse.foldlM runStep? 0 = some 0) :
    ∀ w ∈ closeWord word words, IsWord w := by
  intro w hw
  rw [closeWord] at hw
  by_cases hempty : word.isEmpty = true
  · rw [if_pos hempty] at hw
    exact hwords w hw
  · rw [if_neg hempty] at hw
    rcases List.mem_cons.1 hw with rfl | hw
    · exact .inr ⟨by simpa using hempty, hword⟩
    · exact hwords w hw

/-- What a shorthand is cut into are words: the open one has been cut nowhere so far. -/
theorem isWord_of_split {depth : Nat} {word : List Char} {words result : List (List Char)}
    {cs : List Char} (hwords : ∀ w ∈ words, IsWord w)
    (hword : word.reverse.foldlM runStep? 0 = some depth)
    (h : split depth word words cs = some result) : ∀ w ∈ result, IsWord w := by
  induction cs generalizing depth word words with
  | nil =>
    rw [split] at h
    by_cases hdepth : depth = 0
    · rw [if_pos hdepth] at h
      obtain rfl := Option.some.inj h
      rw [hdepth] at hword
      intro w hw
      exact isWord_of_mem_closeWord hwords hword w (List.mem_reverse.1 hw)
    · rw [if_neg hdepth] at h
      cases h
  | cons c cs ih =>
    rw [split_cons] at h
    by_cases hcut : cutsAt depth c = true
    · obtain ⟨rfl, -⟩ := depthStep?_of_cutsAt hcut
      rw [if_pos hcut] at h
      -- A cut finishes the open word, and adds a comma if it was made at one.
      have hclosed := isWord_of_mem_closeWord hwords hword
      apply ih _ rfl h
      intro w hw
      rw [cutWords] at hw
      by_cases hcomma : c = ','
      · rw [if_pos hcomma] at hw
        rcases List.mem_cons.1 hw with rfl | hw
        · exact .inl rfl
        · exact hclosed w hw
      · rw [if_neg hcomma] at hw
        exact hclosed w hw
    · rw [if_neg hcut] at h
      obtain ⟨depth', hstep, hrest⟩ := Option.bind_eq_some_iff.1 h
      apply ih hwords _ hrest
      rw [List.reverse_cons, List.foldlM_append, hword]
      show (runStep? depth c).bind some = some depth'
      rw [runStep?, if_neg hcut, hstep]
      rfl

theorem isWord_of_words? {cs : List Char} {words : List (List Char)} (h : words? cs = some words) :
    ∀ word ∈ words, IsWord word :=
  isWord_of_split (fun _ h => absurd h List.not_mem_nil) rfl h

end DocSite.Shorthand
