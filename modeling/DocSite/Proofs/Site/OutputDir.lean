import DocSite.Proofs.Theme.InputSet

/-!
# Output directories that stay inside

  The check of an output directory counts how deep a walk along it stands below the
  root of the project. What the check has to rule out is said by a stack: a name
  goes on top of it, two dots take the top off, and the two dots of the output
  directory must never take off a component of the root. The count is the height
  of the stack above the root, so it agrees with the stack at every step.
-/

namespace DocSite

namespace Path

/-! ## Resolving on a stack -/

/-- A component of a path with its index. -/
abbrev Step := Component × Nat

/-- Takes a step on a stack: two dots take the top off, a dot does nothing, all else goes on
top. -/
def takeStep (stack : List Step) (step : Step) : List Step :=
  match step.1 with
  | .up => stack.tail
  | .here => stack
  | .root | .name _ => step :: stack

/-- What is left on the stack behind the last component of a path, the last component on top. -/
def stack (p : Path) : List Step := p.components.zipIdx.foldl takeStep []

/-- Two dots that stand behind the first `size` components take one of these off the stack. -/
def TakesOff (size : Nat) (stack steps : List Step) : Prop :=
  ∃ before i after top, steps = before ++ (.up, i) :: after ∧ size ≤ i ∧
    top ∈ (before.foldl takeStep stack).head? ∧ top.2 < size

/-- Two dots along a path below `root` never take off a component of the root. -/
def KeepsRoot (root p : Path) : Prop := ¬TakesOff root.components.length [] p.components.zipIdx

variable {size : Nat} {stack steps : List Step}

theorem not_takesOff_nil : ¬TakesOff size stack [] := by
  rintro ⟨before, i, after, top, h, -⟩
  simp at h

/-- Something is taken off at the first step, or after it. -/
theorem takesOff_cons {c : Component} {i : Nat} : TakesOff size stack ((c, i) :: steps) ↔
    (c = .up ∧ size ≤ i ∧ ∃ top ∈ stack.head?, top.2 < size) ∨
      TakesOff size (takeStep stack (c, i)) steps := by
  constructor
  · rintro ⟨before, j, after, top, hsteps, hj, htop, hlow⟩
    cases before with
    | nil =>
      obtain ⟨⟨rfl, rfl⟩, -⟩ : (c = .up ∧ i = j) ∧ steps = after := by simpa using hsteps
      exact .inl ⟨rfl, hj, top, htop, hlow⟩
    | cons first before =>
      obtain ⟨rfl, rfl⟩ := List.cons.inj hsteps
      exact .inr ⟨before, j, after, top, rfl, hj, htop, hlow⟩
  · rintro (⟨rfl, hi, top, htop, hlow⟩ | ⟨before, j, after, top, rfl, hj, htop, hlow⟩)
    · exact ⟨[], i, steps, top, rfl, hi, htop, hlow⟩
    · exact ⟨(c, i) :: before, j, after, top, rfl, hj, htop, hlow⟩

/-- The first components take off nothing, so only what stands behind them counts. -/
theorem takesOff_append {front : List Step} (h : ∀ step ∈ front, step.2 < size) :
    TakesOff size stack (front ++ steps) ↔ TakesOff size (front.foldl takeStep stack) steps := by
  induction front generalizing stack with
  | nil => rfl
  | cons step front ih =>
    obtain ⟨c, i⟩ := step
    have hi : i < size := h (c, i) List.mem_cons_self
    rw [List.cons_append, takesOff_cons, ih fun step hstep => h step (List.mem_cons_of_mem _ hstep)]
    simp [Nat.not_le_of_lt hi]

/-- Components other than dots go on top one after the other. -/
theorem foldl_takeStep_of_plain (h : ∀ step ∈ steps, step.1 ≠ .up ∧ step.1 ≠ .here) :
    steps.foldl takeStep stack = steps.reverse ++ stack := by
  induction steps generalizing stack with
  | nil => rfl
  | cons step steps ih =>
    obtain ⟨c, i⟩ := step
    obtain ⟨hup, hhere⟩ := h (c, i) List.mem_cons_self
    have hpush : takeStep stack (c, i) = (c, i) :: stack := by
      cases c with
      | up => exact absurd rfl hup
      | here => exact absurd rfl hhere
      | root => rfl
      | name text => rfl
    rw [List.foldl_cons, hpush, ih fun step hstep => h step (List.mem_cons_of_mem _ hstep),
      List.reverse_cons, List.append_assoc, List.singleton_append]

end Path

/-! ## Height above the root -/

/-- The stack is `bottom` with `height` steps on top, none of them among the first `size`. -/
def StandsAbove (bottom : List Path.Step) (size height : Nat) (stack : List Path.Step) : Prop :=
  ∃ above, stack = above ++ bottom ∧ above.length = height ∧ ∀ step ∈ above, size ≤ step.2

namespace StandsAbove

open DocSite.Path

variable {bottom stack : List Step} {size height i : Nat}

theorem start (bottom : List Step) (size : Nat) : StandsAbove bottom size 0 bottom :=
  ⟨[], rfl, rfl, by simp⟩

/-- A name makes the stack one higher. -/
theorem name (h : StandsAbove bottom size height stack) (hi : size ≤ i) (text : String) :
    StandsAbove bottom size (height + 1) (takeStep stack (.name text, i)) := by
  obtain ⟨above, rfl, hlength, habove⟩ := h
  exact ⟨(.name text, i) :: above, rfl, by simp [hlength], List.forall_mem_cons.2 ⟨hi, habove⟩⟩

/-- Two dots make a stack with something of its own one lower. -/
theorem up (h : StandsAbove bottom size (height + 1) stack) :
    StandsAbove bottom size height (takeStep stack (.up, i)) := by
  obtain ⟨above, rfl, hlength, habove⟩ := h
  obtain ⟨top, above, rfl⟩ := List.exists_cons_of_length_eq_add_one hlength
  exact ⟨above, rfl, by simpa using hlength, fun step hstep => habove step (by simp [hstep])⟩

/-- On top stands a step of the stack's own, if it has any. -/
theorem le_top (h : StandsAbove bottom size (height + 1) stack) :
    ∀ top ∈ stack.head?, size ≤ top.2 := by
  obtain ⟨above, rfl, hlength, habove⟩ := h
  obtain ⟨first, above, rfl⟩ := List.exists_cons_of_length_eq_add_one hlength
  intro top htop
  obtain rfl : first = top := by simpa using htop
  exact habove first List.mem_cons_self

/-- Without steps of its own the stack is the one it started from. -/
theorem eq_bottom (h : StandsAbove bottom size 0 stack) : stack = bottom := by
  obtain ⟨above, rfl, hlength, -⟩ := h
  rw [List.eq_nil_of_length_eq_zero hlength, List.nil_append]

end StandsAbove

namespace BuildOutput

open DocSite.Path

variable {bottom stack : List Step} {size depth i : Nat} {components : List Component}

/-- The walk leaves its start exactly when two dots take something off `bottom`: what the check
counts is the height of the stack. -/
theorem leaves_iff_takesOff (hbottom : ∃ top ∈ bottom.head?, top.2 < size)
    (hroot : .root ∉ components) (hi : size ≤ i) (h : StandsAbove bottom size depth stack) :
    leaves depth components = true ↔ TakesOff size stack (components.zipIdx i) := by
  -- By induction on the walk; `StandsAbove` ties its count to the height of the stack.
  fun_induction leaves depth components generalizing stack i with
  | case1 depth => simpa using not_takesOff_nil
  | case2 depth name rest ih =>
    have hrest := ih (List.not_mem_of_not_mem_cons hroot) (Nat.le_succ_of_le hi) (h.name hi name)
    rw [List.zipIdx_cons, takesOff_cons, hrest]
    simp
  | case3 rest =>
    rw [List.zipIdx_cons, takesOff_cons, h.eq_bottom]
    exact iff_of_true rfl (.inl ⟨rfl, hi, hbottom⟩)
  | case4 depth rest ih =>
    have hrest := ih (List.not_mem_of_not_mem_cons hroot) (Nat.le_succ_of_le hi) (h.up (i := i))
    -- Above the bottom, two dots take off what the walk itself has put there.
    have htop : ¬∃ top ∈ stack.head?, top.2 < size := by
      rintro ⟨top, htop, hlow⟩
      exact Nat.not_lt_of_le (h.le_top top htop) hlow
    rw [List.zipIdx_cons, takesOff_cons, hrest]
    exact (or_iff_right fun htakes => htop htakes.2.2).symm
  | case5 depth rest ih => exact absurd List.mem_cons_self hroot
  | case6 depth rest ih =>
    have hrest := ih (List.not_mem_of_not_mem_cons hroot) (Nat.le_succ_of_le hi) h
    rw [List.zipIdx_cons, takesOff_cons, hrest]
    simp [takeStep]

/-- A walk that does not leave its start keeps `bottom` where it is. -/
theorem exists_standsAbove (hstays : leaves depth components = false)
    (hroot : .root ∉ components) (hi : size ≤ i) (h : StandsAbove bottom size depth stack) :
    ∃ height, StandsAbove bottom size height ((components.zipIdx i).foldl takeStep stack) := by
  fun_induction leaves depth components generalizing stack i with
  | case1 depth => exact ⟨depth, h⟩
  | case2 depth name rest ih =>
    exact ih hstays (List.not_mem_of_not_mem_cons hroot) (Nat.le_succ_of_le hi) (h.name hi name)
  | case3 rest => exact absurd hstays (by simp)
  | case4 depth rest ih =>
    exact ih hstays (List.not_mem_of_not_mem_cons hroot) (Nat.le_succ_of_le hi) h.up
  | case5 depth rest ih => exact absurd List.mem_cons_self hroot
  | case6 depth rest ih =>
    exact ih hstays (List.not_mem_of_not_mem_cons hroot) (Nat.le_succ_of_le hi) h

/-! ## The check -/

/-- Errors about the assets name another place than the output directory. -/
theorem field_of_checkAssets (assets : String) :
    ∀ e ∈ (checkAssets assets).errors, e.field ≠ outDirField := by
  have hfield : (⟨"build.assets"⟩ : FieldPath) ≠ outDirField := by decide
  unfold checkAssets
  split
  · simpa using hfield
  · split
    · simpa using hfield
    · rw [Diagnostics.forall_errors_when]
      simpa using fun _ => hfield

/-- All errors about the output directory name it. -/
theorem field_of_checkOutDir (dir : Path) :
    ∀ e ∈ (checkOutDir dir).errors, e.field = outDirField := by
  unfold checkOutDir
  split
  · simp [outDirField]
  · split
    · simp [outDirField]
    · rw [Diagnostics.forall_errors_when]
      simp [outDirField]

/-- The check of the output directory takes relative paths that are not empty and do not leave the
root. -/
theorem errors_checkOutDir_eq_nil_iff {dir : Path} : (checkOutDir dir).errors = [] ↔
    dir.text ≠ "" ∧ dir.isAbsolute = false ∧ leaves 0 dir.components = false := by
  unfold checkOutDir
  split
  · rename_i hempty
    exact iff_of_false (by simp) fun h => h.1 (by simpa using hempty)
  · rename_i hempty
    have htext : dir.text ≠ "" := by simpa using hempty
    split
    · rename_i habs
      exact iff_of_false (by simp) fun h => by simp [habs] at h
    · rename_i hrelative
      simp [htext, hrelative]

/-- No error names the output directory exactly when its own check finds none. -/
theorem no_error_iff {b : BuildOutput} : (∀ e ∈ b.diagnostics.errors, e.field ≠ outDirField) ↔
    (checkOutDir b.outDir).errors = [] := by
  rw [diagnostics, Diagnostics.errors_append, List.forall_mem_append,
    and_iff_left (field_of_checkAssets _), List.eq_nil_iff_forall_not_mem]
  exact forall₂_congr fun e he => iff_of_false (fun h => h (field_of_checkOutDir _ e he)) (by simp)

/-- A dot in front of a path does not matter to the walk. -/
theorem leaves_components {dir : Path} (hrelative : dir.isAbsolute = false) (depth : Nat) :
    leaves depth dir.components = leaves depth (componentsOf dir.pieces) := by
  rcases components_of_relative hrelative with h | h <;> rw [h]
  rw [leaves]

/-- A path below a root without two dots starts with the components of the root on the stack. -/
theorem foldl_takeStep_root {root : Path} (habs : root.isAbsolute = true)
    (hup : .up ∉ root.components) :
    root.components.zipIdx.foldl takeStep [] = root.components.zipIdx.reverse := by
  rw [foldl_takeStep_of_plain, List.append_nil]
  intro step hstep
  have hmem := List.fst_mem_of_mem_zipIdx hstep
  refine ⟨fun h => hup (h ▸ hmem), fun h => ?_⟩
  rw [h, components_of_absolute habs] at hmem
  rcases eq_up_or_name_of_mem (List.mem_of_ne_of_mem (by simp) hmem) with hname | ⟨text, hname⟩
  · cases hname
  · cases hname

/-- Below the steps of an output directory stand those of the root, the last of them on top. -/
theorem exists_top_root {root : Path} (habs : root.isAbsolute = true) :
    ∃ top ∈ (root.components.zipIdx.reverse).head?, top.2 < root.components.length := by
  have hne : root.components.zipIdx.reverse ≠ [] := by simp [components_of_absolute habs]
  obtain ⟨top, rest, htop⟩ := List.exists_cons_of_ne_nil hne
  refine ⟨top, by rw [htop]; rfl, ?_⟩
  have hmem : top ∈ root.components.zipIdx := List.mem_reverse.1 (by simp [htop])
  simpa using List.snd_lt_of_mem_zipIdx hmem

/-- An output directory is accepted exactly when its text is not empty and its two dots never take
off a component of the root, and then it starts with all components of the root. -/
theorem accepts_iff_keepsRoot {b : BuildOutput} {root : Path} (habs : root.isAbsolute = true)
    (hup : .up ∉ root.components) (hrelative : b.outDir.isAbsolute = false) :
    ((∀ e ∈ b.diagnostics.errors, e.field ≠ outDirField) ↔
      b.outDir.text ≠ "" ∧ KeepsRoot root (b.outputDir root)) ∧
    ((∀ e ∈ b.diagnostics.errors, e.field ≠ outDirField) →
      root.components <+: ((b.outputDir root).stack.map Prod.fst).reverse) := by
  -- The steps of the root come first, and they are numbered below those of the output directory.
  have hsteps : (b.outputDir root).components.zipIdx = root.components.zipIdx ++
      (componentsOf b.outDir.pieces).zipIdx root.components.length := by
    rw [outputDir, components_join habs hrelative, List.zipIdx_append, Nat.zero_add]
  have hfront : ∀ step ∈ root.components.zipIdx, step.2 < root.components.length := by
    intro step hstep
    simpa using List.snd_lt_of_mem_zipIdx hstep
  have hroot := root_not_mem_componentsOf b.outDir.pieces
  have hstart := StandsAbove.start root.components.zipIdx.reverse root.components.length
  rw [no_error_iff, errors_checkOutDir_eq_nil_iff, leaves_components hrelative]
  constructor
  · -- The root is walked through whole, so only the steps behind it can take anything of it off.
    rw [KeepsRoot, hsteps, takesOff_append hfront, foldl_takeStep_root habs hup,
      ← leaves_iff_takesOff (exists_top_root habs) hroot le_rfl hstart]
    simp [hrelative]
  · rintro ⟨-, -, hstays⟩
    obtain ⟨height, above, habove, -⟩ := exists_standsAbove hstays hroot le_rfl hstart
    rw [Path.stack, hsteps, List.foldl_append, foldl_takeStep_root habs hup, habove]
    simp

/-- A directory that leaves the root on the way and comes back to it is refused, one that turns
back inside is accepted. -/
theorem accepts_iff_keepsRoot_site :
    (∃ e ∈ (diagnostics { outDir := ⟨"a/../../site/dist"⟩ }).errors, e.field = outDirField) ∧
    [.root, .name "site"] <+:
      ((outputDir { outDir := ⟨"a/.././dist"⟩ } ⟨"/site"⟩).stack.map Prod.fst).reverse := by
  have habs : (Path.mk "/site").isAbsolute = true := by decide
  have hup : .up ∉ (Path.mk "/site").components := by decide
  constructor
  · have hrefused := (accepts_iff_keepsRoot (b := { outDir := ⟨"a/../../site/dist"⟩ }) habs hup
      (by decide)).1
    by_contra hnone
    push Not at hnone
    -- The second pair of dots finds the name of the root on top.
    refine (hrefused.1 hnone).2 ⟨[(.root, 0), (.name "site", 1), (.name "a", 2), (.up, 3)], 4,
      [(.name "site", 5), (.name "dist", 6)], (.name "site", 1), ?_, ?_, ?_, ?_⟩ <;> decide +kernel
  · exact (accepts_iff_keepsRoot (b := { outDir := ⟨"a/.././dist"⟩ }) habs hup (by decide)).2
      (by decide +kernel)

end BuildOutput

end DocSite
