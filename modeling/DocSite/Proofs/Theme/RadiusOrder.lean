import Mathlib.Algebra.Order.Ring.Rat
import Mathlib.Data.List.Chain
import DocSite.Proofs.Diagnostics
import DocSite.Proofs.Table
import DocSite.Theme.Radius

/-!
# Radius tiers keep their order

  The check of a scale looks at neighbouring tiers only, and at their forms rather
  than at their sizes. If it finds nothing to say, then the tiers are in order for
  every length of the root variable: neighbours that compare are in order whatever
  the root is, and the order passes from neighbour to neighbour. Lengths are taken
  as the exact fractions that are written.
-/

namespace DocSite

/-! ## Sizes in fractions -/

theorem Decimal.toRat_zero : Decimal.zero.toRat = 0 := by
  decide +kernel

theorem Measure.clamp_rat (x : Rat) : Measure.clamp x = max 0 x := by
  have hzero : (Measure.zero : Rat) = 0 := Decimal.toRat_zero
  have hless (y z : Rat) : Measure.less y z = decide (y < z) := rfl
  rw [Measure.clamp, hzero, hless]
  by_cases hx : 0 < x
  · rw [if_pos (decide_eq_true hx), max_eq_right hx.le]
  · have hx' : ¬ decide (0 < x) = true := by simpa using hx
    rw [if_neg hx', max_eq_left (not_lt.1 hx)]

theorem Measure.clamp_le_clamp {x y : Rat} (h : x ≤ y) : Measure.clamp x ≤ Measure.clamp y := by
  rw [clamp_rat, clamp_rat]
  exact max_le_max_left 0 h

namespace RadiusForm

/-- A radius grows with the root, or stays as it is. -/
theorem eval_mono (form : RadiusForm) {root root' : Length}
    (h : (root.toPx : Rat) ≤ root'.toPx) : (form.eval root : Rat) ≤ form.eval root' := by
  cases form with
  | fromVar name minus offset =>
    apply Measure.clamp_le_clamp
    exact add_le_add_left h (offsetPx minus offset)
  | fixed length => exact le_refl _

/-- A radius is never larger than another one, whatever the root is. -/
def NeverAbove (small large : RadiusForm) : Prop :=
  ∀ root : Length, (small.eval root : Rat) ≤ large.eval root

instance : Trans NeverAbove NeverAbove NeverAbove where
  trans hfg hgk root := le_trans (hfg root) (hgk root)

end RadiusForm

namespace RadiusScale

open RadiusForm

/-- Forms that compare are in order for every root. -/
theorem neverAbove_of_compare {small large : RadiusForm}
    (h : compare Rat small large = .inOrder) : NeverAbove small large := by
  have hless (x y : Rat) : Measure.less x y = false ↔ y ≤ x := by
    simp [Measure.less]
  intro root
  -- Only two sums over one variable compare, or two lengths; both clamp what is in order.
  match small, large with
  | .fromVar a minusA offsetA, .fromVar b minusB offsetB =>
    rw [compare] at h
    split at h
    · split at h
      · cases h
      · rename_i hoffset
        apply Measure.clamp_le_clamp
        apply add_le_add_right
        exact (hless _ _).1 (by simpa using hoffset)
    · cases h
  | .fixed a, .fixed b =>
    rw [compare] at h
    split at h
    · cases h
    · rename_i hlength
      apply Measure.clamp_le_clamp
      exact (hless _ _).1 (by simpa using hlength)
  | .fromVar _ _ _, .fixed _ => cases h
  | .fixed _, .fromVar _ _ _ => cases h

/-- Two neighbours pass without a remark only if they compare and are in order. -/
theorem compare_of_checkPair {α : Type} [Measure α] {field : FieldPath}
    {small large : String × RadiusForm}
    (herrors : (checkPair α field small large).errors = [])
    (hwarnings : (checkPair α field small large).warnings = []) :
    compare α small.2 large.2 = .inOrder := by
  rw [checkPair] at herrors hwarnings
  cases hcompare : compare α small.2 large.2 with
  | inOrder => rfl
  | inverted => simp [hcompare] at herrors
  | dependsOnRoot => simp [hcompare, Diagnostics.warning] at hwarnings

/-- A list passes without a remark only if all neighbours compare and are in order. -/
theorem isChain_of_checkPairs {α : Type} [Measure α] {field : FieldPath}
    {tiers : List (String × RadiusForm)} (herrors : (checkPairs α field tiers).errors = [])
    (hwarnings : (checkPairs α field tiers).warnings = []) :
    tiers.IsChain fun small large => compare α small.2 large.2 = .inOrder := by
  induction tiers with
  | nil => exact .nil
  | cons small rest ih =>
    cases rest with
    | nil => exact .singleton small
    | cons large rest =>
      rw [checkPairs, Diagnostics.errors_append, List.append_eq_nil_iff] at herrors
      rw [checkPairs, Diagnostics.warnings_append, List.append_eq_nil_iff] at hwarnings
      exact .cons_cons (compare_of_checkPair herrors.1 hwarnings.1) (ih herrors.2 hwarnings.2)

/-- The order of neighbours is the order of all: a smaller tier is never above a larger one. -/
theorem pairwise_of_checkPairs {field : FieldPath} {tiers : List (String × RadiusForm)}
    (herrors : (checkPairs Rat field tiers).errors = [])
    (hwarnings : (checkPairs Rat field tiers).warnings = []) :
    (tiers.map Prod.snd).Pairwise NeverAbove := by
  have hchain : (tiers.map Prod.snd).IsChain NeverAbove := by
    rw [List.isChain_map]
    exact (isChain_of_checkPairs herrors hwarnings).imp fun _ _ h => neverAbove_of_compare h
  exact List.isChain_iff_pairwise.1 hchain

/-! ## Scales -/

/-- Every radius of a scale can be read. -/
def Readable (scale : RadiusScale) : Prop :=
  ∀ tier expr, scale.get? tier = some expr → ∃ form, RadiusForm.parse expr = .ok form

/-- The check reports what cannot be read. -/
theorem readable_of_no_errors {α : Type} [Measure α] {scale : RadiusScale} {field : FieldPath}
    (h : (scale.diagnosticsIn α field).errors = []) : scale.Readable := by
  intro tier expr hget
  rw [diagnosticsIn, Diagnostics.errors_append_eq_nil_iff, Diagnostics.errors_concat,
    List.flatMap_eq_nil_iff] at h
  have hentry := h.1 _ (List.mem_map_of_mem (Table.mem_of_lookup hget))
  cases hparse : RadiusForm.parse expr with
  | ok form => exact ⟨form, rfl⟩
  | error e => simp [hparse] at hentry

/-- Known tiers of a scale without remarks are in order, whatever stands between them. -/
theorem neverAbove_of_no_remarks {scale : RadiusScale} {field : FieldPath}
    (herrors : (scale.diagnosticsIn Rat field).errors = [])
    (hwarnings : (scale.diagnosticsIn Rat field).warnings = []) {i j : Nat} (hij : i < j)
    {small large : String} (hi : tierOrder[i]? = some small) (hj : tierOrder[j]? = some large)
    {expr expr' : String} {form form' : RadiusForm} (hsmall : scale.get? small = some expr)
    (hlarge : scale.get? large = some expr') (hform : RadiusForm.parse expr = .ok form)
    (hform' : RadiusForm.parse expr' = .ok form') : NeverAbove form form' := by
  rw [diagnosticsIn, Diagnostics.errors_append, List.append_eq_nil_iff] at herrors
  rw [diagnosticsIn, Diagnostics.warnings_append, List.append_eq_nil_iff] at hwarnings
  have hpairs := pairwise_of_checkPairs herrors.2 hwarnings.2
  -- The tiers that are compared are the known ones, in their order, less those that are missing.
  rw [List.pairwise_map, ordered, List.pairwise_filterMap, List.pairwise_iff_getElem] at hpairs
  obtain ⟨hi', rfl⟩ := List.getElem?_eq_some_iff.1 hi
  obtain ⟨hj', rfl⟩ := List.getElem?_eq_some_iff.1 hj
  have hbelow := hpairs i j hi' hj' hij
  rw [hsmall, hlarge] at hbelow
  simp only [Option.bind_eq_bind, Option.bind_some, hform, hform', Except.toOption] at hbelow
  exact hbelow (tierOrder[i], form) rfl (tierOrder[j], form') rfl

/-- Known tiers of a scale without remarks are in order for every root, and in any scale that
can be read, every tier grows with the root or stays as it is. -/
theorem tiers_keep_order :
    (∀ (scale : RadiusScale) (field : FieldPath),
      (scale.diagnosticsIn Rat field).errors = [] →
      (scale.diagnosticsIn Rat field).warnings = [] →
      ∀ (i j : Nat) (small large expr expr' : String), i < j →
        tierOrder[i]? = some small → tierOrder[j]? = some large →
        scale.get? small = some expr → scale.get? large = some expr' →
        ∃ form form', RadiusForm.parse expr = .ok form ∧ RadiusForm.parse expr' = .ok form' ∧
          ∀ root : Length, (form.eval root : Rat) ≤ form'.eval root) ∧
    (∀ scale : RadiusScale, scale.Readable →
      ∀ (root root' : Length), (root.toPx : Rat) ≤ root'.toPx →
      ∀ tier expr, scale.get? tier = some expr →
        ∃ form, RadiusForm.parse expr = .ok form ∧ (form.eval root : Rat) ≤ form.eval root') := by
  constructor
  · intro scale field herrors hwarnings i j small large expr expr' hij hi hj hsmall hlarge
    have hreadable := readable_of_no_errors herrors
    obtain ⟨form, hform⟩ := hreadable small expr hsmall
    obtain ⟨form', hform'⟩ := hreadable large expr' hlarge
    refine ⟨form, form', hform, hform', ?_⟩
    exact neverAbove_of_no_remarks herrors hwarnings hij hi hj hsmall hlarge hform hform'
  · intro scale hreadable root root' hroot tier expr hget
    obtain ⟨form, hform⟩ := hreadable tier expr hget
    exact ⟨form, hform, form.eval_mono hroot⟩

/-- A scale of three tiers below the root length, listed from the largest to the smallest. -/
def descendingScale : RadiusScale where
  tiers.entries := [("lg", "var(--radius)"), ("md", "calc(var(--radius) - 2px)"),
    ("pill", "999px"), ("sm", "calc(var(--radius) - 0.25rem)")]

theorem tiers_keep_order_descending :
    (descendingScale.diagnosticsIn Rat ⟨"radius"⟩).errors = [] ∧
      (descendingScale.diagnosticsIn Rat ⟨"radius"⟩).warnings = [] ∧
      (∀ root : Length,
        ((RadiusForm.fromVar "radius" true ⟨⟨false, 25, -2⟩, .rem⟩).eval root : Rat) ≤
          (RadiusForm.fromVar "radius" false Length.zero).eval root) ∧
      ((RadiusForm.fromVar "radius" true ⟨⟨false, 2, 0⟩, .px⟩).eval ⟨⟨false, 3, 0⟩, .px⟩ : Rat) ≤
        (RadiusForm.fromVar "radius" true ⟨⟨false, 2, 0⟩, .px⟩).eval ⟨⟨false, 5, -1⟩, .rem⟩ := by
  have herrors : (descendingScale.diagnosticsIn Rat ⟨"radius"⟩).errors = [] := by decide +kernel
  have hwarnings : (descendingScale.diagnosticsIn Rat ⟨"radius"⟩).warnings = [] := by
    decide +kernel
  refine ⟨herrors, hwarnings, ?_, ?_⟩
  · -- The tiers at the places 1 and 4 of the scale are compared across the one between them.
    obtain ⟨form, form', hform, hform', hle⟩ := tiers_keep_order.1 descendingScale ⟨"radius"⟩
      herrors hwarnings 1 4 "sm" "lg" _ _ (by decide) rfl rfl rfl rfl
    obtain rfl : RadiusForm.fromVar "radius" true ⟨⟨false, 25, -2⟩, .rem⟩ = form :=
      Except.ok.inj hform
    obtain rfl : RadiusForm.fromVar "radius" false Length.zero = form' := Except.ok.inj hform'
    exact hle
  · obtain ⟨form, hform, hle⟩ := tiers_keep_order.2 descendingScale
      (readable_of_no_errors herrors) ⟨⟨false, 3, 0⟩, .px⟩ ⟨⟨false, 5, -1⟩, .rem⟩
      (by decide +kernel) "md" _ rfl
    obtain rfl : RadiusForm.fromVar "radius" true ⟨⟨false, 2, 0⟩, .px⟩ = form :=
      Except.ok.inj hform
    exact hle

end RadiusScale

end DocSite
