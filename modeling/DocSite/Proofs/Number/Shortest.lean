import DocSite.Number.Shortest
import DocSite.Proofs.Number.Rounding

/-!
# Shortest digits read back

  The digits of a double are a point of a decimal grid inside the interval of the
  numbers that round to it. At most seventeen grids are tried before one is fine
  enough to have such a point, so the search always ends with one, and reading
  the digits gives the double back.
-/

namespace DocSite

open Binary64

/-! ## Powers of ten -/

theorem ten_zpow_pos (k : Int) : (0 : ℚ) < 10 ^ k := zpow_pos (by norm_num) k

theorem ten_zpow_eq (k : Int) :
    (10 : ℚ) ^ k =
      if 0 ≤ k then ((10 ^ k.toNat : Nat) : ℚ) else 1 / ((10 ^ (-k).toNat : Nat) : ℚ) :=
  mod_cast zpow_eq_ite 10 k

/-- The number of digits tells between which powers of ten a number lies. -/
theorem pow_length_toDigits {n : Nat} (hn : 0 < n) :
    10 ^ ((Nat.toDigits 10 n).length - 1) ≤ n ∧ n < 10 ^ (Nat.toDigits 10 n).length := by
  have hpos : 0 < (Nat.toDigits 10 n).length := Nat.length_toDigits_pos
  refine ⟨?_, (Nat.length_toDigits_le_iff (by decide) hpos).1 le_rfl⟩
  by_cases hone : (Nat.toDigits 10 n).length = 1
  · rw [hone]
    exact hn
  · by_contra hlt
    have hle := (Nat.length_toDigits_le_iff (b := 10) (n := n)
      (k := (Nat.toDigits 10 n).length - 1) (by decide) (by omega)).2 (by omega)
    omega

/-! ## Decimals -/

namespace Binary64

/-- The numbers that round to a finite value lie within the range in which decimals are not
settled by their number of digits. -/
theorem RoundsTo.ten_zpow_bounds {q : ℚ} {m : Nat} {e : Int} (hm : 0 < m) (hfits : Fits m e)
    (h : RoundsTo q m e) : (10 : ℚ) ^ (-324 : Int) < q ∧ q < 10 ^ (309 : Int) := by
  -- The least value is `2 ^ (-1074)`, and what is below half of it is rounded to zero.
  constructor
  · have hmq : (1 : ℚ) ≤ m := by exact_mod_cast hm
    have hroom := roomBelow_le m e
    have hsmall : (10 : ℚ) ^ (-324 : Int) < 2 ^ (-1075 : Int) := by
      rw [zpow_neg, zpow_neg]
      apply inv_strictAnti₀ (two_zpow_pos _)
      have hnat : (2 : Nat) ^ 1075 < 10 ^ 324 := by decide +kernel
      exact_mod_cast hnat
    have hhalf : (2 : ℚ) ^ (-1075 : Int) ≤ 1 / 2 * 2 ^ e := by
      have hmono : (2 : ℚ) ^ (-1075 : Int) ≤ 2 ^ (e - 1) :=
        zpow_le_zpow_right₀ (by norm_num) (by have := hfits.low; unfold minExponent at this; omega)
      rw [zpow_sub_one₀ (by norm_num)] at hmono
      linarith
    calc (10 : ℚ) ^ (-324 : Int) < 2 ^ (-1075 : Int) := hsmall
      _ ≤ 1 / 2 * 2 ^ e := hhalf
      _ ≤ (m - roomBelow m e) * 2 ^ e :=
        mul_le_mul_of_nonneg_right (by linarith) (two_zpow_pos e).le
      _ ≤ q := h.low
  · -- All finite values are below `2 ^ 1024`.
    have hlarge : (2 : ℚ) ^ (1024 : Int) < 10 ^ (309 : Int) := by
      have hnat : (2 : Nat) ^ 1024 < 10 ^ 309 := by decide +kernel
      exact_mod_cast hnat
    calc q < 2 ^ (e + 53) := h.lt_two_zpow hfits
      _ ≤ 2 ^ (1024 : Int) :=
        zpow_le_zpow_right₀ (by norm_num) (by have := hfits.high; unfold maxExponent at this; omega)
      _ < 10 ^ (309 : Int) := hlarge

/-- A decimal that rounds to a finite value is rounded to it. -/
theorem ofDecimal_of_roundsTo {d : Decimal} {m : Nat} {e : Int} (hm : 0 < m) (hfits : Fits m e)
    (h : RoundsTo (d.digits * 10 ^ d.exponent) m e) :
    ofDecimal d = .finite d.negative m e := by
  have hq := h.pos hm
  have hdigits : 0 < d.digits := by
    rcases Nat.eq_zero_or_pos d.digits with hzero | hpos
    · simp [hzero] at hq
    · exact hpos
  obtain ⟨hlow, hhigh⟩ := h.ten_zpow_bounds hm hfits
  obtain ⟨hleast, hmost⟩ := pow_length_toDigits hdigits
  have hlength : 0 < (Nat.toDigits 10 d.digits).length := Nat.length_toDigits_pos
  unfold ofDecimal
  rw [if_neg hdigits.ne']
  generalize (Nat.toDigits 10 d.digits).length = len at hleast hmost hlength
  have hpow := ten_zpow_pos d.exponent
  -- The number of digits and the exponent give the size of the decimal.
  have htop : ¬ (310 : Int) < len + d.exponent := by
    intro htop
    have hle : (10 : ℚ) ^ ((len : Int) - 1 + d.exponent) ≤ d.digits * 10 ^ d.exponent := by
      rw [zpow_add₀ (by norm_num)]
      refine mul_le_mul_of_nonneg_right ?_ hpow.le
      rw [show (len : Int) - 1 = ((len - 1 : Nat) : Int) by omega, zpow_natCast]
      exact_mod_cast hleast
    have hlt := (zpow_lt_zpow_iff_right₀ (by norm_num)).1 (hle.trans_lt hhigh)
    omega
  have hbottom : ¬ (len : Int) + d.exponent < -330 := by
    intro hbottom
    have hle : (d.digits : ℚ) * 10 ^ d.exponent < 10 ^ ((len : Int) + d.exponent) := by
      rw [zpow_add₀ (by norm_num), zpow_natCast]
      refine mul_lt_mul_of_pos_right ?_ hpow
      exact_mod_cast hmost
    have hlt := (zpow_lt_zpow_iff_right₀ (by norm_num)).1 (hlow.trans hle)
    omega
  simp only [if_neg htop, if_neg hbottom]
  rw [ten_zpow_eq] at h
  split
  · rename_i hexp
    rw [if_pos hexp] at h
    refine ofRatio_of_roundsTo Nat.one_pos hm hfits ?_
    rw [Nat.pow_eq, Nat.cast_mul, Nat.cast_one, div_one]
    exact h
  · rename_i hexp
    rw [if_neg hexp, mul_one_div] at h
    exact ofRatio_of_roundsTo (Nat.pow_pos (by decide)) hm hfits h

end Binary64

/-! ## Points of a grid -/

namespace Shortest

/-- A number lies in an interval, at an end of it only if the ends belong to it. -/
structure Interval.Contains (i : Interval) (q : ℚ) : Prop where
  low : (i.low : ℚ) / i.unit ≤ q
  high : q ≤ i.high / i.unit
  inside : i.closed = false → (i.low : ℚ) / i.unit < q ∧ q < i.high / i.unit

/-- The spacing of a grid, in the units in which the interval is compared with it. -/
def gridOf (i : Interval) (p : Int) : Nat := if 0 ≤ p then Nat.pow 10 p.toNat * i.unit else i.unit

/-- How much finer than those of the interval these units are. -/
def fineOf (p : Int) : Nat := if 0 ≤ p then 1 else Nat.pow 10 (-p).toNat

theorem fineOf_pos (p : Int) : 0 < fineOf p := by
  unfold fineOf
  split
  · decide
  · exact Nat.pow_pos (by decide)

/-- The spacing in the units of the comparison is the power of ten. -/
theorem gridOf_eq (i : Interval) (p : Int) :
    (gridOf i p : ℚ) = 10 ^ p * (fineOf p * i.unit) := by
  unfold gridOf fineOf
  rw [ten_zpow_eq]
  split
  · push_cast
    rw [Nat.pow_eq]
    push_cast
    ring
  · have hpos : (0 : ℚ) < ((10 ^ (-p).toNat : Nat) : ℚ) := by positivity
    rw [Nat.pow_eq]
    field_simp

/-- Comparing in the finer units compares the numbers. -/
theorem le_grid_iff {i : Interval} (hunit : 0 < i.unit) (p : Int) (a c : Nat) :
    a * fineOf p ≤ c * gridOf i p ↔ (a : ℚ) / i.unit ≤ c * 10 ^ p := by
  have hu : (0 : ℚ) < i.unit := by exact_mod_cast hunit
  have hf : (0 : ℚ) < fineOf p := by exact_mod_cast fineOf_pos p
  rw [div_le_iff₀ hu, ← Nat.cast_le (α := ℚ), Nat.cast_mul, Nat.cast_mul, gridOf_eq]
  constructor
  · intro h
    have : (a : ℚ) * fineOf p ≤ (c * 10 ^ p * i.unit) * fineOf p := by linarith
    exact le_of_mul_le_mul_right this hf
  · intro h
    have := mul_le_mul_of_nonneg_right h hf.le
    linarith

theorem grid_le_iff {i : Interval} (hunit : 0 < i.unit) (p : Int) (a c : Nat) :
    c * gridOf i p ≤ a * fineOf p ↔ c * (10 : ℚ) ^ p ≤ a / i.unit := by
  have hu : (0 : ℚ) < i.unit := by exact_mod_cast hunit
  have hf : (0 : ℚ) < fineOf p := by exact_mod_cast fineOf_pos p
  rw [le_div_iff₀ hu, ← Nat.cast_le (α := ℚ), Nat.cast_mul, Nat.cast_mul, gridOf_eq]
  constructor
  · intro h
    have : (c * 10 ^ p * i.unit) * (fineOf p : ℚ) ≤ a * fineOf p := by linarith
    exact le_of_mul_le_mul_right this hf
  · intro h
    have := mul_le_mul_of_nonneg_right h hf.le
    linarith

/-- Whether a point of the grid lies in the interval, as the search tests it below the value. -/
def lowIn (i : Interval) (p : Int) (c : Nat) : Prop :=
  if i.closed then i.low * fineOf p ≤ c * gridOf i p else i.low * fineOf p < c * gridOf i p

/-- The same test above the value. -/
def highIn (i : Interval) (p : Int) (c : Nat) : Prop :=
  if i.closed then c * gridOf i p ≤ i.high * fineOf p else c * gridOf i p < i.high * fineOf p

/-- The point of the grid right below the value, or at it. -/
def floorIn (i : Interval) (p : Int) : Nat := i.value * fineOf p / gridOf i p

/-- What a grid offers, by the tests that the neighbours of the value pass. -/
theorem gridPoint?_cases (tie : Tie) (i : Interval) (p : Int) :
    (lowIn i p (floorIn i p) ∧ gridPoint? tie i p = some (floorIn i p)) ∨
      (highIn i p (floorIn i p + 1) ∧ gridPoint? tie i p = some (floorIn i p + 1)) ∨
      (¬ lowIn i p (floorIn i p) ∧ ¬ highIn i p (floorIn i p + 1) ∧
        gridPoint? tie i p = none) := by
  unfold gridPoint? floorIn lowIn highIn gridOf fineOf
  -- What counts are the results of the two tests, so the numbers are put out of the way.
  simp only
  generalize (if 0 ≤ p then Nat.pow 10 p.toNat * i.unit else i.unit) = grid
  generalize (if 0 ≤ p then 1 else Nat.pow 10 (-p).toNat) = fine
  generalize i.value * fine / grid = below
  by_cases hlow : if i.closed then i.low * fine ≤ below * grid else i.low * fine < below * grid
  · by_cases hhigh : if i.closed then (below + 1) * grid ≤ i.high * fine
        else (below + 1) * grid < i.high * fine
    · simp only [hlow, hhigh, decide_true, Bool.and_self, if_true, true_and, Option.some.injEq]
      split
      · exact .inl rfl
      · exact .inr (.inl rfl)
    · simp only [hlow, hhigh, decide_true, decide_false, Bool.and_false, Bool.false_eq_true,
        if_true, if_false, true_and, true_or]
  · by_cases hhigh : if i.closed then (below + 1) * grid ≤ i.high * fine
        else (below + 1) * grid < i.high * fine
    · simp only [hlow, hhigh, decide_true, decide_false, Bool.false_and, Bool.false_eq_true,
        if_true, if_false, true_and, true_or, or_true]
    · simp only [hlow, hhigh, decide_false, Bool.false_and, Bool.false_eq_true, if_false,
        not_false_eq_true, true_and, or_true]

/-- An interval with its value properly inside. -/
structure Interval.Proper (i : Interval) : Prop where
  unit : 0 < i.unit
  low : i.low < i.value
  high : i.value < i.high

namespace Interval.Proper

variable {i : Interval} (hi : i.Proper) (p : Int)

include hi

theorem low_lt : (i.low : ℚ) / i.unit < i.value / i.unit := by
  have hu : (0 : ℚ) < i.unit := by exact_mod_cast hi.unit
  exact div_lt_div_of_pos_right (by exact_mod_cast hi.low) hu

theorem lt_high : (i.value : ℚ) / i.unit < i.high / i.unit := by
  have hu : (0 : ℚ) < i.unit := by exact_mod_cast hi.unit
  exact div_lt_div_of_pos_right (by exact_mod_cast hi.high) hu

/-- The value lies between two neighbouring points of the grid. -/
theorem floor_spec : (floorIn i p : ℚ) * 10 ^ p ≤ i.value / i.unit ∧
    (i.value : ℚ) / i.unit < (floorIn i p + 1 : Nat) * 10 ^ p := by
  have hgrid : 0 < gridOf i p := by
    unfold gridOf
    split
    · exact Nat.mul_pos (Nat.pow_pos (by decide)) hi.unit
    · exact hi.unit
  constructor
  · rw [← grid_le_iff hi.unit]
    exact Nat.div_mul_le_self _ _
  · rw [← not_le, ← grid_le_iff hi.unit, not_le]
    exact (Nat.div_lt_iff_lt_mul hgrid).1 (Nat.lt_succ_self _)

theorem lowIn_iff (c : Nat) : lowIn i p c ↔
    if i.closed then (i.low : ℚ) / i.unit ≤ c * 10 ^ p else (i.low : ℚ) / i.unit < c * 10 ^ p := by
  unfold lowIn
  rw [le_grid_iff hi.unit, ← not_le, ← not_le, grid_le_iff hi.unit]

theorem highIn_iff (c : Nat) : highIn i p c ↔
    if i.closed then (c : ℚ) * 10 ^ p ≤ i.high / i.unit else (c : ℚ) * 10 ^ p < i.high / i.unit := by
  unfold highIn
  rw [grid_le_iff hi.unit, ← not_le, ← not_le, le_grid_iff hi.unit]

/-- What a grid offers lies in the interval. -/
theorem contains {tie : Tie} {c : Nat} (h : gridPoint? tie i p = some c) :
    i.Contains (c * 10 ^ p) := by
  obtain ⟨hbelow, habove⟩ := hi.floor_spec p
  -- The bound that no test has checked is that the value itself lies in the interval.
  rcases gridPoint?_cases tie i p with ⟨hlow, hc⟩ | ⟨hhigh, hc⟩ | ⟨-, -, hnone⟩
  · obtain rfl := Option.some.inj (hc.symm.trans h)
    rw [hi.lowIn_iff] at hlow
    have hlt := hbelow.trans_lt hi.lt_high
    cases hclosed : i.closed with
    | true =>
      simp only [hclosed, if_true] at hlow
      exact ⟨hlow, hlt.le, by simp [hclosed]⟩
    | false =>
      simp only [hclosed, Bool.false_eq_true, if_false] at hlow
      exact ⟨hlow.le, hlt.le, fun _ => ⟨hlow, hlt⟩⟩
  · obtain rfl := Option.some.inj (hc.symm.trans h)
    rw [hi.highIn_iff] at hhigh
    have hlt := hi.low_lt.trans habove
    cases hclosed : i.closed with
    | true =>
      simp only [hclosed, if_true] at hhigh
      exact ⟨hlt.le, hhigh, by simp [hclosed]⟩
    | false =>
      simp only [hclosed, Bool.false_eq_true, if_false] at hhigh
      exact ⟨hlt.le, hhigh.le, fun _ => ⟨hlt, hhigh⟩⟩
  · simp [hnone] at h

/-- A grid that is finer than the interval is long has a point in it. -/
theorem isSome_of_fine (tie : Tie)
    (hfine : (10 : ℚ) ^ p < i.high / i.unit - i.low / i.unit) :
    (gridPoint? tie i p).isSome = true := by
  rcases gridPoint?_cases tie i p with ⟨-, hc⟩ | ⟨-, hc⟩ | ⟨hlow, hhigh, -⟩
  · simp [hc]
  · simp [hc]
  · -- Otherwise two neighbouring points lie on both sides of the interval.
    exfalso
    rw [hi.lowIn_iff] at hlow
    rw [hi.highIn_iff] at hhigh
    push_cast at hhigh
    cases hclosed : i.closed with
    | true =>
      simp only [hclosed, if_true, not_le] at hlow hhigh
      linarith
    | false =>
      simp only [hclosed, Bool.false_eq_true, if_false, not_lt] at hlow hhigh
      linarith

/-- A grid with the value among its points has a point in the interval. -/
theorem isSome_of_exact (tie : Tie) {c : Nat} (hc : (i.value : ℚ) / i.unit = c * 10 ^ p) :
    (gridPoint? tie i p).isSome = true := by
  obtain ⟨hbelow, habove⟩ := hi.floor_spec p
  have hpow := ten_zpow_pos p
  -- The value is the grid point itself, so its neighbour below is that point.
  have hle : floorIn i p ≤ c := by
    rw [hc] at hbelow
    exact_mod_cast le_of_mul_le_mul_right hbelow hpow
  have hlt : c < floorIn i p + 1 := by
    rw [hc] at habove
    exact_mod_cast lt_of_mul_lt_mul_right habove hpow.le
  obtain rfl : c = floorIn i p := by omega
  have hlow := hi.low_lt
  rw [hc] at hlow
  rcases gridPoint?_cases tie i p with ⟨-, hpoint⟩ | ⟨-, hpoint⟩ | ⟨hnot, -⟩
  · simp [hpoint]
  · simp [hpoint]
  · rw [hi.lowIn_iff] at hnot
    cases hclosed : i.closed with
    | true => simp [hclosed, hlow.le] at hnot
    | false => simp [hclosed, hlow] at hnot

end Interval.Proper

/-- The search ends with a point of a grid at or before one that has some. -/
theorem search_spec {tie : Tie} {i : Interval} {room j : Nat} {p : Int} (hj : j ≤ room)
    (h : (gridPoint? tie i (p - j)).isSome = true) :
    ∃ c q, search tie i room p = (c, q) ∧ gridPoint? tie i q = some c ∧ p - j ≤ q ∧ q ≤ p := by
  -- By induction on the grids that are left: one without a point leads to the next finer one.
  induction room generalizing p j with
  | zero =>
    obtain rfl : j = 0 := by omega
    rw [Nat.cast_zero, sub_zero] at h
    obtain ⟨c, hc⟩ := Option.isSome_iff_exists.1 h
    exact ⟨c, p, by simp [search, hc], hc, by omega, le_rfl⟩
  | succ room ih =>
    rw [search]
    cases hp : gridPoint? tie i p with
    | some c => exact ⟨c, p, rfl, hp, by omega, le_rfl⟩
    | none =>
      cases j with
      | zero => simp [hp] at h
      | succ j =>
        have hstep : p - 1 - (j : Int) = p - ((j + 1 : Nat) : Int) := by
          push_cast
          ring
        obtain ⟨c, q, hsearch, hq, hlow, hhigh⟩ := ih (p := p - 1) (j := j) (by omega)
          (by rw [hstep]; exact h)
        exact ⟨c, q, hsearch, hq, by omega, by omega⟩

/-- Taking zeros off changes neither the number nor its sign. -/
theorem dropZeros_spec (room d : Nat) (p : Int) :
    ((dropZeros room (d, p)).1 : ℚ) * 10 ^ (dropZeros room (d, p)).2 = d * 10 ^ p ∧
      p ≤ (dropZeros room (d, p)).2 := by
  induction room generalizing d p with
  | zero => exact ⟨rfl, le_rfl⟩
  | succ room ih =>
    rw [dropZeros]
    split
    · rename_i hzero
      simp only [Bool.and_eq_true, beq_iff_eq, bne_iff_ne] at hzero
      obtain ⟨hvalue, hle⟩ := ih (d / 10) (p + 1)
      refine ⟨?_, by omega⟩
      have hten : (d : ℚ) = (d / 10 : Nat) * 10 := by
        have hnat : d = d / 10 * 10 := by omega
        exact_mod_cast hnat
      rw [hvalue, zpow_add_one₀ (by norm_num), hten]
      ring
    · exact ⟨rfl, le_rfl⟩

/-! ## The interval of a value -/

section IntervalOf

variable {m : Nat} (hm : 0 < m) (e : Int)

theorem intervalOf_scale :
    ((if 0 ≤ e - 2 then Nat.pow 2 (e - 2).toNat else 1 : Nat) : ℚ) / (intervalOf m e).unit =
      2 ^ e / 4 := by
  have hpow : (2 : ℚ) ^ e / 4 = 2 ^ (e - 2) := by
    rw [zpow_sub₀ (by norm_num)]
    norm_num
  rw [hpow, two_zpow_eq]
  unfold intervalOf
  simp only [Nat.pow_eq]
  split
  · simp
  · simp

theorem closed_intervalOf : (intervalOf m e).closed = (m % 2 == 0) := rfl

theorem value_intervalOf :
    ((intervalOf m e).value : ℚ) / (intervalOf m e).unit = m * 2 ^ e := by
  have hscale := intervalOf_scale (m := m) e
  have hvalue : (intervalOf m e).value =
      4 * m * (if 0 ≤ e - 2 then Nat.pow 2 (e - 2).toNat else 1) := rfl
  rw [hvalue, Nat.cast_mul, mul_div_assoc, hscale]
  push_cast
  ring

theorem high_intervalOf :
    ((intervalOf m e).high : ℚ) / (intervalOf m e).unit = (m + 1 / 2) * 2 ^ e := by
  have hscale := intervalOf_scale (m := m) e
  have hhigh : (intervalOf m e).high =
      (4 * m + 2) * (if 0 ≤ e - 2 then Nat.pow 2 (e - 2).toNat else 1) := rfl
  rw [hhigh, Nat.cast_mul, mul_div_assoc, hscale]
  push_cast
  ring

include hm

theorem low_intervalOf :
    ((intervalOf m e).low : ℚ) / (intervalOf m e).unit = (m - roomBelow m e) * 2 ^ e := by
  have hscale := intervalOf_scale (m := m) e
  have hlow : (intervalOf m e).low =
      (4 * m - if m = leastNormal && minExponent < e then 1 else 2) *
        (if 0 ≤ e - 2 then Nat.pow 2 (e - 2).toNat else 1) := rfl
  rw [hlow, Nat.cast_mul, mul_div_assoc, hscale]
  unfold roomBelow
  by_cases hpower : m = leastNormal ∧ minExponent < e
  · have htest : (m = leastNormal && minExponent < e) = true := by simpa using hpower
    rw [if_pos htest, if_pos hpower, Nat.cast_sub (by omega)]
    push_cast
    ring
  · have htest : ¬ (m = leastNormal && minExponent < e) = true := by simpa using hpower
    rw [if_neg htest, if_neg hpower, Nat.cast_sub (by omega)]
    push_cast
    ring

theorem proper_intervalOf : (intervalOf m e).Proper := by
  have hscale : 0 < (if 0 ≤ e - 2 then Nat.pow 2 (e - 2).toNat else 1) := by
    split
    · exact Nat.pow_pos (by decide)
    · decide
  refine ⟨?_, ?_, ?_⟩
  · unfold intervalOf
    simp only
    split
    · decide
    · exact Nat.pow_pos (by decide)
  · refine Nat.mul_lt_mul_of_pos_right ?_ hscale
    split
    · omega
    · omega
  · exact Nat.mul_lt_mul_of_pos_right (by omega) hscale

/-- The interval of a value holds the numbers that round to it. -/
theorem roundsTo_of_contains {q : ℚ} (h : (intervalOf m e).Contains q) : RoundsTo q m e := by
  obtain ⟨hlow, hhigh, hinside⟩ := h
  rw [low_intervalOf hm] at hlow hinside
  rw [high_intervalOf] at hhigh hinside
  refine ⟨hlow, hhigh, fun hodd => hinside ?_⟩
  rw [closed_intervalOf]
  simp [hodd]

end IntervalOf

/-! ## The first grid -/

theorem leadingZeros_spec {d room n start : Nat} (h : d ≤ n * 10 ^ room) :
    ∃ j, leadingZeros d room n start = start + j ∧ d ≤ n * 10 ^ j := by
  induction room generalizing n start with
  | zero => exact ⟨0, rfl, h⟩
  | succ room ih =>
    rw [leadingZeros]
    split
    · rename_i hle
      exact ⟨0, rfl, by simpa using hle⟩
    · have hroom : d ≤ n * 10 * 10 ^ room := by
        rw [Nat.mul_assoc, Nat.mul_comm 10, ← Nat.pow_succ]
        exact h
      obtain ⟨j, heq, hle⟩ := @ih (n * 10) (start + 1) hroom
      refine ⟨j + 1, by rw [heq]; omega, ?_⟩
      rw [Nat.pow_succ, Nat.mul_comm (10 ^ j), ← Nat.mul_assoc]
      exact hle

/-- The decimal exponent of a ratio has a power that does not exceed it. -/
theorem ten_zpow_log10Ratio_le {n d : Nat} (hd : 0 < d) (h : d ≤ n * 10 ^ 400) :
    (10 : ℚ) ^ log10Ratio n d ≤ n / d := by
  have hdq : (0 : ℚ) < d := by exact_mod_cast hd
  rw [le_div_iff₀ hdq]
  unfold log10Ratio
  split
  · rename_i hle
    have hquot : 0 < n / d := Nat.div_pos hle hd
    obtain ⟨hleast, -⟩ := pow_length_toDigits hquot
    have hlength : 0 < (Nat.toDigits 10 (n / d)).length := Nat.length_toDigits_pos
    rw [show ((Nat.toDigits 10 (n / d)).length : Int) - 1 =
      (((Nat.toDigits 10 (n / d)).length - 1 : Nat) : Int) by omega, zpow_natCast]
    have hmul := Nat.mul_le_mul_right d hleast
    exact_mod_cast hmul.trans (Nat.div_mul_le_self n d)
  · obtain ⟨j, heq, hle⟩ := @leadingZeros_spec d 400 n 0 h
    rw [heq, Nat.zero_add, zpow_neg, zpow_natCast, inv_mul_le_iff₀ (by positivity), mul_comm]
    exact_mod_cast hle

theorem log10Ratio_nonneg {n d : Nat} (h : d ≤ n) : 0 ≤ log10Ratio n d := by
  rw [log10Ratio, if_pos h]
  have hlength : 0 < (Nat.toDigits 10 (n / d)).length := Nat.length_toDigits_pos
  omega

/-! ## The digits of a value -/

/-- Whether a positive value is a multiple of one. -/
def IsWhole (m : Nat) (e : Int) : Prop := ∃ n : Nat, (m : ℚ) * 2 ^ e = n

/-- An integer that rounds to a value whose last place is below one is the value. -/
theorem eq_of_roundsTo_nat {n m : Nat} {e : Int} (he : e < 0) (h : RoundsTo n m e) :
    (m : ℚ) * 2 ^ e = n := by
  have hscale : (2 : ℚ) ^ e * ((2 ^ (-e).toNat : Nat) : ℚ) = 1 := by
    rw [two_zpow_eq, if_neg (by omega), one_div, inv_mul_cancel₀ (by positivity)]
  have hpos : (0 : ℚ) < ((2 ^ (-e).toNat : Nat) : ℚ) := by positivity
  have hroom := roomBelow_le m e
  have hlow := mul_le_mul_of_nonneg_right h.low hpos.le
  have hhigh := mul_le_mul_of_nonneg_right h.high hpos.le
  rw [mul_assoc, hscale, mul_one] at hlow hhigh
  -- In units of the last place both are integers, and they are less than one apart.
  have hcount : n * 2 ^ (-e).toNat = m := by
    have h1 : (m : ℚ) < (n * 2 ^ (-e).toNat : Nat) + 1 := by push_cast at hlow ⊢; linarith
    have h2 : ((n * 2 ^ (-e).toNat : Nat) : ℚ) < m + 1 := by push_cast at hhigh ⊢; linarith
    have h1' : m < n * 2 ^ (-e).toNat + 1 := by exact_mod_cast h1
    have h2' : n * 2 ^ (-e).toNat < m + 1 := by exact_mod_cast h2
    omega
  rw [← hcount]
  push_cast at hscale ⊢
  rw [mul_assoc, mul_comm ((2 : ℚ) ^ (-e).toNat), hscale, mul_one]

section DigitsOf

variable {m : Nat} {e : Int} (hm : 0 < m) (hfits : Fits m e)

include hm

theorem unit_le_of_isWhole (h : IsWhole m e) : (intervalOf m e).unit ≤ (intervalOf m e).value := by
  obtain ⟨n, hn⟩ := h
  have hu : (0 : ℚ) < (intervalOf m e).unit := by exact_mod_cast (proper_intervalOf hm e).unit
  have hpos : (0 : ℚ) < n := by
    rw [← hn]
    exact mul_pos (by exact_mod_cast hm) (two_zpow_pos e)
  have hone : (1 : ℚ) ≤ n := by
    have : 0 < n := by exact_mod_cast hpos
    exact_mod_cast this
  rw [← hn, ← value_intervalOf, one_le_div hu] at hone
  exact_mod_cast hone

include hfits

theorem unit_le_value_mul : (intervalOf m e).unit ≤ (intervalOf m e).value * 10 ^ 400 := by
  have hu : (0 : ℚ) < (intervalOf m e).unit := by exact_mod_cast (proper_intervalOf hm e).unit
  have hleast : (2 : ℚ) ^ (-1074 : Int) ≤ m * 2 ^ e := by
    have hmq : (1 : ℚ) ≤ m := by exact_mod_cast hm
    calc (2 : ℚ) ^ (-1074 : Int) ≤ 2 ^ e := zpow_le_zpow_right₀ (by norm_num) hfits.low
      _ ≤ m * 2 ^ e := le_mul_of_one_le_left (two_zpow_pos e).le hmq
  have hpowers : (1 : ℚ) ≤ 2 ^ (-1074 : Int) * 10 ^ 400 := by
    have hnat : (2 : Nat) ^ 1074 ≤ 10 ^ 400 := by decide +kernel
    rw [zpow_neg, inv_mul_eq_div, one_le_div (two_zpow_pos _)]
    exact_mod_cast hnat
  have hle := hpowers.trans (mul_le_mul_of_nonneg_right hleast (by positivity))
  rw [← value_intervalOf, div_mul_eq_mul_div, one_le_div hu] at hle
  exact_mod_cast hle

/-- Seventeen digits are enough: the eighteenth grid is finer than the interval is long. -/
theorem isSome_seventeen (tie : Tie) {p : Int} (hp : (10 : ℚ) ^ p ≤ m * 2 ^ e) :
    (gridPoint? tie (intervalOf m e) (p - (17 : Nat))).isSome = true := by
  apply (proper_intervalOf hm e).isSome_of_fine
  rw [high_intervalOf, low_intervalOf hm, zpow_sub₀ (by norm_num), zpow_natCast]
  have hmq : (m : ℚ) < 9007199254740992 := by
    have hlt := hfits.lt
    unfold leastNormal at hlt
    exact_mod_cast hlt
  have hroom : (1 / 4 : ℚ) ≤ roomBelow m e := by
    unfold roomBelow
    split <;> norm_num
  have hpow := two_zpow_pos e
  -- A mantissa has fewer than seventeen digits, so this is less than three quarters of a unit.
  have hsmall : (m : ℚ) * 2 ^ e / 10 ^ 17 < 3 / 4 * 2 ^ e := by
    rw [div_lt_iff₀ (by positivity)]
    have := mul_lt_mul_of_pos_right hmq hpow
    linarith
  have hlarge : 3 / 4 * (2 : ℚ) ^ e ≤ (1 / 2 + roomBelow m e) * 2 ^ e :=
    mul_le_mul_of_nonneg_right (by linarith) hpow.le
  calc (10 : ℚ) ^ p / 10 ^ 17 ≤ m * 2 ^ e / 10 ^ 17 := by gcongr
    _ < 3 / 4 * 2 ^ e := hsmall
    _ ≤ (1 / 2 + roomBelow m e) * 2 ^ e := hlarge
    _ = (m + 1 / 2) * 2 ^ e - (m - roomBelow m e) * 2 ^ e := by ring

/-- The digits of a value round to it, and no digit lies behind the point exactly for integers. -/
theorem digitsOf_spec (tie : Tie) :
    RoundsTo ((digitsOf tie m e).1 * 10 ^ (digitsOf tie m e).2) m e ∧
      (0 ≤ (digitsOf tie m e).2 ↔ IsWhole m e) := by
  have hproper := proper_intervalOf hm e
  have hfirst := ten_zpow_log10Ratio_le hproper.unit (unit_le_value_mul hm hfits)
  rw [value_intervalOf] at hfirst
  -- Where the search stops: at an integer grid for an integer.
  obtain ⟨j, hj, hsome, hwhole⟩ : ∃ j ≤ 20, (gridPoint? tie (intervalOf m e)
      (log10Ratio (intervalOf m e).value (intervalOf m e).unit - (j : Nat))).isSome = true ∧
      (IsWhole m e → 0 ≤ log10Ratio (intervalOf m e).value (intervalOf m e).unit - (j : Nat)) := by
    generalize hp : log10Ratio (intervalOf m e).value (intervalOf m e).unit = p at *
    -- For a short integer the last grid is that of the integers, which has the value itself.
    by_cases hsmall : p < 17 ∧ IsWhole m e
    · have hnonneg : 0 ≤ p := hp ▸ log10Ratio_nonneg (unit_le_of_isWhole hm hsmall.2)
      obtain ⟨n, hn⟩ := hsmall.2
      refine ⟨p.toNat, by omega, ?_, by omega⟩
      apply hproper.isSome_of_exact _ _ (c := n)
      rw [value_intervalOf, hn, show p - (p.toNat : Int) = 0 by omega, zpow_zero, mul_one]
    · refine ⟨17, by omega, isSome_seventeen hm hfits tie hfirst, ?_⟩
      intro hwhole
      by_contra hneg
      exact hsmall ⟨by omega, hwhole⟩
  obtain ⟨c, q, hsearch, hpoint, hlow, -⟩ := search_spec hj hsome
  -- Zeros that are dropped change the layout, but not the number.
  obtain ⟨hvalue, hle⟩ := dropZeros_spec 20 c q
  have hrounds : RoundsTo ((digitsOf tie m e).1 * 10 ^ (digitsOf tie m e).2) m e := by
    unfold digitsOf
    simp only [hsearch, hvalue]
    exact roundsTo_of_contains hm e (hproper.contains q hpoint)
  refine ⟨hrounds, fun hnonneg => ?_, fun h => ?_⟩
  · by_cases he : 0 ≤ e
    · exact ⟨m * 2 ^ e.toNat, by rw [two_zpow_eq, if_pos he]; push_cast; ring⟩
    · rw [ten_zpow_eq, if_pos hnonneg] at hrounds
      exact ⟨_, eq_of_roundsTo_nat (by omega) (n := (digitsOf tie m e).1 *
        10 ^ (digitsOf tie m e).2.toNat) (by push_cast at hrounds ⊢; exact hrounds)⟩
  · have hfloor := hwhole h
    unfold digitsOf
    simp only [hsearch]
    omega

end DigitsOf

/-- Integers are recognized by their mantissa. -/
theorem isInteger_iff (negative : Bool) (m : Nat) (e : Int) :
    (Binary64.finite negative m e).isInteger = true ↔ IsWhole m e := by
  unfold Binary64.isInteger IsWhole
  rw [Bool.or_eq_true, decide_eq_true_iff, beq_iff_eq, two_zpow_eq]
  by_cases he : 0 ≤ e
  · rw [if_pos he]
    refine iff_of_true (.inl he) ⟨m * 2 ^ e.toNat, ?_⟩
    push_cast
    ring
  · rw [if_neg he, or_iff_right he, Nat.pow_eq]
    -- With a negative exponent, the power of two has to divide the mantissa.
    have hpos : ((2 ^ (-e).toNat : Nat) : ℚ) ≠ 0 := by positivity
    rw [← Nat.dvd_iff_mod_eq_zero]
    constructor
    · rintro ⟨n, hn⟩
      refine ⟨n, ?_⟩
      rw [mul_one_div, div_eq_iff hpos, hn]
      push_cast
      ring
    · rintro ⟨n, hn⟩
      refine ⟨n, ?_⟩
      rw [mul_one_div, div_eq_iff hpos, mul_comm] at hn
      exact_mod_cast hn

end Shortest

end DocSite
