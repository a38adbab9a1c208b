import DocSite.Proofs.Number.Rounding

/-!
# Amounts

  An amount is a number that is not below zero: NaN is none, and both zeros are.
  Rounding without a sign gives amounts only, and an amount in another unit is an
  amount again.
-/

namespace DocSite

namespace Binary64

/-- A number that is not below zero; NaN is no number. -/
def IsAmount (x : Binary64) : Prop := x ≠ .nan ∧ x.lt (.zero false) = false

/-! ## The sign of finite values -/

theorem scaled_zero (negative : Bool) (e : Int) : scaled negative 0 e = 0 := by
  have hmagnitude : scaled false 0 e = 0 := by
    simp [scaled]
  cases negative with
  | false => exact hmagnitude
  | true =>
    show -scaled false 0 e = 0
    rw [hmagnitude, neg_zero]

theorem scaled_nonneg (m : Nat) (e : Int) : 0 ≤ scaled false m e := by
  show (0 : ℚ) ≤ if 0 ≤ e then ((m * Nat.pow 2 e.toNat : Nat) : ℚ)
    else mkRat m (Nat.pow 2 (-e).toNat)
  split
  · exact Nat.cast_nonneg _
  · rw [Rat.mkRat_eq_div]
    positivity

theorem scaled_pos {m : Nat} (hm : m ≠ 0) (e : Int) : 0 < scaled false m e := by
  have hm' : 0 < m := Nat.pos_of_ne_zero hm
  show (0 : ℚ) < if 0 ≤ e then ((m * Nat.pow 2 e.toNat : Nat) : ℚ)
    else mkRat m (Nat.pow 2 (-e).toNat)
  split
  · exact Nat.cast_pos.2 (Nat.mul_pos hm' (Nat.two_pow_pos _))
  · have hpow : 0 < Nat.pow 2 (-e).toNat := Nat.two_pow_pos _
    rw [Rat.mkRat_eq_div]
    positivity

/-- A finite value is an amount if it has no sign, or is zero. -/
theorem isAmount_finite_iff {negative : Bool} {m : Nat} {e : Int} :
    IsAmount (.finite negative m e) ↔ negative = false ∨ m = 0 := by
  have hlt : lt (.finite negative m e) (.zero false) = decide (scaled negative m e < 0) := by
    show decide (scaled negative m e < scaled false 0 minExponent) = _
    rw [scaled_zero]
  have hne : Binary64.finite negative m e ≠ .nan := nofun
  rw [IsAmount, hlt, decide_eq_false_iff_not, not_lt, and_iff_right hne]
  cases negative with
  | false => exact iff_of_true (scaled_nonneg m e) (.inl rfl)
  | true =>
    by_cases hm : m = 0
    · rw [hm, scaled_zero]
      exact iff_of_true le_rfl (.inr rfl)
    · -- The value of a number with a sign is that of the one without it, turned round.
      have hneg : ¬0 ≤ scaled true m e := by
        show ¬0 ≤ -scaled false m e
        have hpos := scaled_pos hm e
        linarith
      exact iff_of_false hneg (by simp [hm])

/-- What is at least zero is an amount, since nothing is above or equal to NaN. -/
theorem isAmount_of_zero_le {x : Binary64} (h : (zero false).le x = true) : x.IsAmount := by
  cases x with
  | nan => exact absurd h (by decide)
  | infinite negative =>
    cases negative with
    | false => exact ⟨nofun, rfl⟩
    | true => exact absurd h (by decide)
  | finite negative m e =>
    refine ⟨nofun, ?_⟩
    -- Comparing finite values is comparing the integers that they are scaled to.
    have hlt (s t : Bool) (m n : Nat) (e f : Int) :
        lt (.finite s m e) (.finite t n f) = decide (scaled s m e < scaled t n f) := rfl
    rw [le, Bool.or_eq_true] at h
    rw [zero, hlt, decide_eq_false_iff_not, not_lt]
    rcases h with hbelow | hequal
    · rw [zero, hlt, decide_eq_true_eq] at hbelow
      exact hbelow.le
    · simp only [eqValue, zero, hlt, Bool.and_eq_true, Bool.not_eq_true',
        decide_eq_false_iff_not, not_lt] at hequal
      exact hequal.2

/-! ## Rounding -/

/-- A ratio is rounded to a value with its sign, finite or infinite. -/
theorem ofRatio_cases (negative : Bool) (n d : Nat) :
    ofRatio negative n d = .infinite negative ∨
      ∃ m e, ofRatio negative n d = .finite negative m e := by
  by_cases hn : n = 0
  · rw [ofRatio, if_pos hn]
    exact .inr ⟨0, minExponent, rfl⟩
  · rw [ofRatio_eq_carried negative hn]
    generalize nearestIn n d (max (log2Ratio n d - 52) minExponent) = m
    generalize max (log2Ratio n d - 52) minExponent = e
    -- A carry out of the mantissa may be what makes the value infinite.
    unfold carried
    by_cases hcarry : m = 2 * leastNormal
    · simp only [if_pos hcarry]
      split
      · exact .inl rfl
      · exact .inr ⟨_, _, rfl⟩
    · simp only [if_neg hcarry]
      split
      · exact .inl rfl
      · exact .inr ⟨_, _, rfl⟩

theorem isAmount_ofRatio (n d : Nat) : IsAmount (ofRatio false n d) := by
  obtain h | ⟨m, e, h⟩ := ofRatio_cases false n d
  · rw [h]
    exact ⟨nofun, rfl⟩
  · rw [h]
    exact isAmount_finite_iff.2 (.inl rfl)

theorem ofRatio_ne_nan (negative : Bool) (n d : Nat) : ofRatio negative n d ≠ .nan := by
  obtain h | ⟨m, e, h⟩ := ofRatio_cases negative n d
  · rw [h]
    nofun
  · rw [h]
    nofun

/-- No decimal is read as NaN. -/
theorem ofDecimal_ne_nan (d : Decimal) : ofDecimal d ≠ .nan := by
  unfold ofDecimal
  split
  · nofun
  · simp only
    split
    · nofun
    · split
      · nofun
      · split
        · exact ofRatio_ne_nan _ _ _
        · exact ofRatio_ne_nan _ _ _

/-- NaN is read from the words that stand for it only. -/
theorem ofNumeral_eq_nan_iff {n : Numeral} : ofNumeral n = .nan ↔ n = .nan := by
  cases n with
  | nan => exact iff_of_true rfl rfl
  | infinite negative => exact iff_of_false nofun nofun
  | decimal d => exact iff_of_false (ofDecimal_ne_nan d) nofun

/-! ## Units -/

/-- An amount in units of a positive value is an amount; infinity stays infinite. -/
theorem isAmount_mul {x : Binary64} (hx : x.IsAmount) {m : Nat} (hm : m ≠ 0) (e : Int) :
    IsAmount (x * .finite false m e) := by
  cases x with
  | nan => exact absurd rfl hx.1
  | infinite negative =>
    cases negative with
    | true => exact absurd hx.2 (by decide)
    | false =>
      have hmul : Binary64.infinite false * .finite false m e = .infinite false := by
        show (if m = 0 then Binary64.nan else .infinite false) = _
        rw [if_neg hm]
      rw [hmul]
      exact ⟨nofun, rfl⟩
  | finite negative n f =>
    have hmul : Binary64.finite negative n f * .finite false m e =
        ofRatio (negative != false) (scaled false (n * m) (f + e)).num.natAbs
          (scaled false (n * m) (f + e)).den := rfl
    rw [hmul]
    rcases isAmount_finite_iff.1 hx with rfl | rfl
    · exact isAmount_ofRatio _ _
    · -- A zero keeps its sign, which does not make it less.
      rw [Nat.zero_mul, scaled_zero, Rat.num_zero, Int.natAbs_zero, ofRatio, if_pos rfl]
      exact isAmount_finite_iff.2 (.inr rfl)

end Binary64

end DocSite
