import DocSite.Proofs.Theme.RadiusOrder

/-!
# Tiers that compare

  Two lengths compare whatever the root is, and so do two offsets from one root
  variable. The check of a scale looks at neighbours only, and lets a pair that
  does not compare pass with a warning. So it holds the order within every run of
  tiers that compare; a tier of another form in between ends the run, and what
  stands on its two sides may be inverted. Such a scale is not reported as wrong,
  but it never passes without a warning inside the range.
-/

namespace DocSite

namespace RadiusForm

/-- The root variable that a form is an offset from; none for a length. -/
def rootName? : RadiusForm → Option String
  | .fromVar name _ _ => some name
  | .fixed _ => none

/-- Forms whose order does not depend on the root: two lengths, or two offsets from one
variable. -/
def Comparable (form form' : RadiusForm) : Prop := form.rootName? = form'.rootName?

instance (form form' : RadiusForm) : Decidable (form.Comparable form') :=
  inferInstanceAs (Decidable (form.rootName? = form'.rootName?))

end RadiusForm

namespace RadiusScale

open RadiusForm

/-! ## Neighbours -/

/-- The check calls the order open exactly when the forms do not compare. -/
theorem compare_eq_dependsOnRoot_iff {α : Type} [Measure α] {small large : RadiusForm} :
    compare α small large = .dependsOnRoot ↔ ¬ small.Comparable large := by
  match small, large with
  | .fromVar a minusA offsetA, .fromVar b minusB offsetB =>
    rw [compare]
    by_cases hname : a = b
    · rw [if_pos hname]
      split <;> simp [Comparable, rootName?, hname]
    · simp [Comparable, rootName?, hname]
  | .fixed a, .fixed b =>
    rw [compare]
    split <;> simp [Comparable, rootName?]
  | .fromVar _ _ _, .fixed _ => simp [compare, Comparable, rootName?]
  | .fixed _, .fromVar _ _ _ => simp [compare, Comparable, rootName?]

/-- Forms that compare and are not found to be inverted are in order for every root. -/
theorem neverAbove_of_not_inverted {small large : RadiusForm}
    (hcomparable : small.Comparable large) (h : compare Rat small large ≠ .inverted) :
    NeverAbove small large := by
  cases hcompare : compare Rat small large with
  | inOrder => exact neverAbove_of_compare hcompare
  | inverted => exact absurd hcompare h
  | dependsOnRoot => exact absurd hcomparable (compare_eq_dependsOnRoot_iff.1 hcompare)

/-- A pair is an error exactly when it is inverted. -/
theorem errors_checkPair_eq_nil_iff {α : Type} [Measure α] {field : FieldPath}
    {small large : String × RadiusForm} :
    (checkPair α field small large).errors = [] ↔ compare α small.2 large.2 ≠ .inverted := by
  rw [checkPair]
  cases hcompare : compare α small.2 large.2 with
  | inOrder => simp
  | inverted => simp
  | dependsOnRoot => simp

/-- A list of tiers has no errors exactly when no two neighbours are inverted. -/
theorem errors_checkPairs_eq_nil_iff {α : Type} [Measure α] {field : FieldPath}
    {tiers : List (String × RadiusForm)} :
    (checkPairs α field tiers).errors = [] ↔
      tiers.IsChain fun small large => compare α small.2 large.2 ≠ .inverted := by
  induction tiers with
  | nil => simp [checkPairs]
  | cons small rest ih =>
    cases rest with
    | nil => simp [checkPairs]
    | cons large rest =>
      rw [checkPairs, Diagnostics.errors_append_eq_nil_iff, errors_checkPair_eq_nil_iff, ih,
        List.isChain_cons_cons]

/-- What is said about a larger tier whose order with a smaller one is open. -/
def openOrder (field : FieldPath) (small large : String) : Warning where
  field := field.key large
  message := "ordering of " ++ Text.ticked small ++ " and " ++ Text.ticked large ++
    " depends on the root value"

/-- Neighbours that do not compare leave a warning at the larger one. -/
theorem mem_warnings_checkPairs {α : Type} [Measure α] (field : FieldPath)
    {small large : String × RadiusForm} (h : ¬ small.2.Comparable large.2)
    (front back : List (String × RadiusForm)) :
    openOrder field small.1 large.1 ∈
      (checkPairs α field (front ++ small :: large :: back)).warnings := by
  induction front with
  | nil =>
    have hopen : compare α small.2 large.2 = .dependsOnRoot := compare_eq_dependsOnRoot_iff.2 h
    rw [List.nil_append, checkPairs, Diagnostics.warnings_append, checkPair, hopen]
    exact List.mem_append_left _ List.mem_cons_self
  | cons tier front ih =>
    -- Behind a tier there is always a next one, so the check goes on to the rest.
    cases front with
    | nil => exact List.mem_append_right _ ih
    | cons next front => exact List.mem_append_right _ ih

/-! ## Runs -/

/-- The ends of a run of tiers that compare are in order for every root. -/
theorem neverAbove_of_run {first last : String × RadiusForm}
    {between : List (String × RadiusForm)}
    (hchain : (first :: (between ++ [last])).IsChain fun small large =>
      compare Rat small.2 large.2 ≠ .inverted)
    (hbetween : ∀ tier ∈ between, first.2.Comparable tier.2)
    (hlast : first.2.Comparable last.2) : NeverAbove first.2 last.2 := by
  induction between generalizing first with
  | nil =>
    have hpair := (List.isChain_cons_cons.1 hchain).1
    exact neverAbove_of_not_inverted hlast hpair
  | cons next between ih =>
    obtain ⟨hpair, hrest⟩ := List.isChain_cons_cons.1 hchain
    have hnext : first.2.Comparable next.2 := hbetween next List.mem_cons_self
    have hbelow : NeverAbove first.2 next.2 := neverAbove_of_not_inverted hnext hpair
    have habove : NeverAbove next.2 last.2 := by
      apply ih hrest
      · intro tier htier
        exact hnext.symm.trans (hbetween tier (List.mem_cons_of_mem _ htier))
      · exact hnext.symm.trans hlast
    exact Trans.trans hbelow habove

/-- Where a tier between two others does not compare with the first of them, two neighbours
among them do not compare. -/
theorem exists_break (first last : String × RadiusForm) {between : List (String × RadiusForm)}
    (hbreak : ∃ tier ∈ between, ¬ first.2.Comparable tier.2) :
    ∃ front small large back, first :: (between ++ [last]) = front ++ small :: large :: back ∧
      large ∈ between ∧ ¬ small.2.Comparable large.2 := by
  induction between generalizing first with
  | nil =>
    obtain ⟨tier, htier, -⟩ := hbreak
    exact absurd htier List.not_mem_nil
  | cons next between ih =>
    by_cases hnext : first.2.Comparable next.2
    · -- The run goes on: the tier that ends it does not compare with the next one either.
      have hbreak' : ∃ tier ∈ between, ¬ next.2.Comparable tier.2 := by
        obtain ⟨tier, htier, hapart⟩ := hbreak
        have hne : tier ≠ next := fun he => hapart (he ▸ hnext)
        exact ⟨tier, List.mem_of_ne_of_mem hne htier, fun h => hapart (hnext.trans h)⟩
      obtain ⟨front, small, large, back, hsplit, hmem, hapart⟩ := ih next hbreak'
      refine ⟨first :: front, small, large, back, ?_, List.mem_cons_of_mem _ hmem, hapart⟩
      rw [List.cons_append, List.cons_append, hsplit]
    · exact ⟨[], first, next, between ++ [last], rfl, List.mem_cons_self, hnext⟩

/-! ## Scales -/

/-- A known tier of a scale: its place in the order of sizes, its name and its form. -/
structure TierAt (scale : RadiusScale) (i : Nat) (tier : String) (form : RadiusForm) : Prop where
  known : tierOrder[i]? = some tier
  reads : ∃ expr, scale.get? tier = some expr ∧ RadiusForm.parse expr = .ok form

/-- The known tier of a name, if the scale has it and it can be read. -/
def known? (scale : RadiusScale) (tier : String) : Option (String × RadiusForm) := do
  let form ← (RadiusForm.parse (← scale.get? tier)).toOption
  return (tier, form)

theorem ordered_eq (scale : RadiusScale) : scale.ordered = tierOrder.filterMap scale.known? := rfl

theorem known?_eq_some_iff {scale : RadiusScale} {tier : String} {t : String × RadiusForm} :
    scale.known? tier = some t ↔
      t.1 = tier ∧ ∃ expr, scale.get? tier = some expr ∧ RadiusForm.parse expr = .ok t.2 := by
  obtain ⟨name, form⟩ := t
  unfold known?
  cases hget : scale.get? tier with
  | none => simp
  | some expr =>
    cases hparse : RadiusForm.parse expr with
    | error e => simp [Except.toOption, hparse]
    | ok form' => simp [Except.toOption, hparse, eq_comm]

/-- A list cut at two of its places. -/
theorem exists_cut {α : Type} {xs : List α} {i j : Nat} (hij : i < j) {a b : α}
    (ha : xs[i]? = some a) (hb : xs[j]? = some b) :
    ∃ front between back, xs = front ++ a :: (between ++ b :: back) ∧
      ∀ x, x ∈ between ↔ ∃ k, i < k ∧ k < j ∧ xs[k]? = some x := by
  obtain ⟨hi, rfl⟩ := List.getElem?_eq_some_iff.1 ha
  obtain ⟨hj, rfl⟩ := List.getElem?_eq_some_iff.1 hb
  -- Between are the elements behind the first place, up to the second one.
  refine ⟨xs.take i, (xs.drop (i + 1)).take (j - (i + 1)), xs.drop (j + 1), ?_, ?_⟩
  · have hrest : (xs.drop (i + 1)).drop (j - (i + 1)) = xs[j] :: xs.drop (j + 1) := by
      rw [List.drop_drop, Nat.add_sub_cancel' hij, List.drop_eq_getElem_cons hj]
    calc xs = xs.take i ++ xs.drop i := (List.take_append_drop i xs).symm
      _ = xs.take i ++ xs[i] :: xs.drop (i + 1) := by rw [List.drop_eq_getElem_cons hi]
      _ = _ := by rw [← hrest, List.take_append_drop]
  · intro x
    rw [List.mem_iff_getElem?]
    constructor
    · intro h
      obtain ⟨m, hm⟩ := h
      rw [List.getElem?_take] at hm
      split at hm
      · rw [List.getElem?_drop] at hm
        exact ⟨i + 1 + m, by omega, by omega, hm⟩
      · cases hm
    · intro h
      obtain ⟨k, hik, hkj, hk⟩ := h
      refine ⟨k - (i + 1), ?_⟩
      rw [List.getElem?_take, if_pos (by omega), List.getElem?_drop, Nat.add_sub_cancel' hik]
      exact hk

/-- The tiers that are compared, cut at two of them: what stands between them in the order of
sizes, as far as the scale has it, stands between them. -/
theorem ordered_split {scale : RadiusScale} {i j : Nat} (hij : i < j) {small large : String}
    {form form' : RadiusForm} (hsmall : scale.TierAt i small form)
    (hlarge : scale.TierAt j large form') :
    ∃ front between back,
      scale.ordered = front ++ ((small, form) :: (between ++ (large, form') :: back)) ∧
      ∀ t, t ∈ between ↔ ∃ k, i < k ∧ k < j ∧ scale.TierAt k t.1 t.2 := by
  have hfirst : scale.known? small = some (small, form) := known?_eq_some_iff.2 ⟨rfl, hsmall.reads⟩
  have hlast : scale.known? large = some (large, form') := known?_eq_some_iff.2 ⟨rfl, hlarge.reads⟩
  -- The order of all sizes is cut first; each part then keeps the tiers that the scale has.
  obtain ⟨front, between, back, hcut, hmem⟩ := exists_cut hij hsmall.known hlarge.known
  refine ⟨front.filterMap scale.known?, between.filterMap scale.known?,
    back.filterMap scale.known?, ?_, ?_⟩
  · rw [ordered_eq, hcut, List.filterMap_append, List.filterMap_cons_some hfirst,
      List.filterMap_append, List.filterMap_cons_some hlast]
  · intro t
    rw [List.mem_filterMap]
    constructor
    · intro h
      obtain ⟨tier, htier, hknown⟩ := h
      obtain ⟨rfl, hreads⟩ := known?_eq_some_iff.1 hknown
      obtain ⟨k, hik, hkj, hk⟩ := (hmem _).1 htier
      exact ⟨k, hik, hkj, hk, hreads⟩
    · intro h
      obtain ⟨k, hik, hkj, hk, hreads⟩ := h
      exact ⟨t.1, (hmem _).2 ⟨k, hik, hkj, hk⟩, known?_eq_some_iff.2 ⟨rfl, hreads⟩⟩

/-- In a scale without errors, two known tiers that compare are in order for every root if each
known tier between them compares with them; a tier between them that does not compare leaves a
warning in between. -/
theorem comparable_tiers_in_order {scale : RadiusScale} {field : FieldPath}
    (herrors : (scale.diagnosticsIn Rat field).errors = []) {i j : Nat} (hij : i < j)
    {small large : String} {form form' : RadiusForm} (hsmall : scale.TierAt i small form)
    (hlarge : scale.TierAt j large form') (hcomparable : form.Comparable form') :
    ((∀ k tier between, i < k → k < j → scale.TierAt k tier between → form.Comparable between) →
      ∀ root : Length, (form.eval root : Rat) ≤ form'.eval root) ∧
    ((∃ k tier between, i < k ∧ k < j ∧ scale.TierAt k tier between ∧
        ¬ form.Comparable between) →
      ∃ k below above, i < k ∧ k < j ∧ tierOrder[k]? = some above ∧
        openOrder field below above ∈ (scale.diagnosticsIn Rat field).warnings) := by
  obtain ⟨front, between, back, hsplit, hbetween⟩ := ordered_split hij hsmall hlarge
  constructor
  · intro hrun
    rw [diagnosticsIn, Diagnostics.errors_append_eq_nil_iff, errors_checkPairs_eq_nil_iff,
      hsplit] at herrors
    have hchain := herrors.2.right_of_append
    -- The run from the smaller tier to the larger one, without what stands behind.
    rw [← List.cons_append, List.append_cons, List.cons_append] at hchain
    apply neverAbove_of_run hchain.left_of_append
    · intro tier htier
      obtain ⟨k, hik, hkj, htierAt⟩ := (hbetween tier).1 htier
      exact hrun k tier.1 tier.2 hik hkj htierAt
    · exact hcomparable
  · intro hbreak
    -- Somewhere between the two the run breaks off, and there the warning is.
    obtain ⟨k, tier, form'', hik, hkj, htierAt, hapart⟩ := hbreak
    obtain ⟨front', below, above, back', hcut, hmem, hopen⟩ :=
      exists_break (small, form) (large, form')
        ⟨(tier, form''), (hbetween _).2 ⟨k, hik, hkj, htierAt⟩, hapart⟩
    obtain ⟨l, hil, hlj, habove⟩ := (hbetween above).1 hmem
    refine ⟨l, below.1, above.1, hil, hlj, habove.known, ?_⟩
    have hpairs := mem_warnings_checkPairs (α := Rat) field hopen (front ++ front')
      (back' ++ back)
    have hordered : scale.ordered = front ++ front' ++ below :: above :: (back' ++ back) := by
      rw [hsplit, List.append_cons between, ← List.cons_append, hcut]
      simp
    rw [diagnosticsIn, Diagnostics.warnings_append, hordered]
    exact List.mem_append_right _ hpairs

/-- A scale with a run of lengths below a run of offsets, listed in no order of sizes. -/
def twoRuns : RadiusScale where
  tiers.entries := [("DEFAULT", "0.25rem"), ("none", "0"), ("sm", "2px"),
    ("xl", "calc(var(--radius) + 2px)"), ("lg", "var(--radius)")]

theorem comparable_tiers_in_order_lengths :
    (twoRuns.diagnosticsIn Rat ⟨"radius"⟩).errors = [] ∧
      ∀ root : Length,
        ((RadiusForm.fixed ⟨⟨false, 0, 0⟩, .px⟩).eval root : Rat) ≤
          (RadiusForm.fixed ⟨⟨false, 25, -2⟩, .rem⟩).eval root := by
  have herrors : (twoRuns.diagnosticsIn Rat ⟨"radius"⟩).errors = [] := by decide +kernel
  have hnone : twoRuns.TierAt 0 "none" (.fixed ⟨⟨false, 0, 0⟩, .px⟩) := ⟨rfl, "0", rfl, rfl⟩
  have hdefault : twoRuns.TierAt 2 "DEFAULT" (.fixed ⟨⟨false, 25, -2⟩, .rem⟩) :=
    ⟨rfl, "0.25rem", rfl, rfl⟩
  refine ⟨herrors, (comparable_tiers_in_order herrors (by decide) hnone hdefault rfl).1 ?_⟩
  intro k tier between hk hk' hbetween
  obtain rfl : k = 1 := by omega
  -- The one tier in between is a length too.
  obtain ⟨hknown, expr, hget, hparse⟩ := hbetween
  obtain rfl : "sm" = tier := Option.some.inj hknown
  obtain rfl : "2px" = expr := Option.some.inj hget
  obtain rfl : RadiusForm.fixed ⟨⟨false, 2, 0⟩, .px⟩ = between := Except.ok.inj hparse
  rfl

/-- Two lengths in the wrong order, with a tier below the root length between them. -/
def dividedScale : RadiusScale where
  tiers.entries := [("sm", "10px"), ("md", "var(--radius)"), ("lg", "2px")]

/-- Across a tier of another form the order of two lengths is not checked: the scale has no
error, and the smaller tier is the larger one for every root. -/
theorem divided_tiers_invert :
    (dividedScale.diagnosticsIn Rat ⟨"radius"⟩).errors = [] ∧
      (dividedScale.diagnostics ⟨"radius"⟩).errors = [] ∧
      dividedScale.TierAt 1 "sm" (.fixed ⟨⟨false, 10, 0⟩, .px⟩) ∧
      dividedScale.TierAt 4 "lg" (.fixed ⟨⟨false, 2, 0⟩, .px⟩) ∧
      (RadiusForm.fixed ⟨⟨false, 10, 0⟩, .px⟩).Comparable (.fixed ⟨⟨false, 2, 0⟩, .px⟩) ∧
      ∀ root : Length, ((RadiusForm.fixed ⟨⟨false, 2, 0⟩, .px⟩).eval root : Rat) <
        (RadiusForm.fixed ⟨⟨false, 10, 0⟩, .px⟩).eval root := by
  refine ⟨by decide +kernel, by decide +kernel, ⟨rfl, "10px", rfl, rfl⟩, ⟨rfl, "2px", rfl, rfl⟩,
    rfl, ?_⟩
  -- The value of a length does not depend on the root.
  intro root
  show (Measure.clamp (Length.toPx ⟨⟨false, 2, 0⟩, .px⟩) : Rat) <
    Measure.clamp (Length.toPx ⟨⟨false, 10, 0⟩, .px⟩)
  decide +kernel

end RadiusScale

end DocSite
