import DocSite.Number.Binary64
import Mathlib.Algebra.Order.Field.Power
import Mathlib.Algebra.Order.Field.Rat
import Mathlib.Data.Nat.Log
import Mathlib.Data.Rat.Cast.Defs
import Mathlib.Tactic.FieldSimp
import Mathlib.Tactic.Linarith
import Mathlib.Tactic.NormNum
import Mathlib.Tactic.Positivity
import Mathlib.Tactic.Ring

/-!
# What rounds to a double

  A ratio is rounded in three steps: its binary exponent is found, it is divided
  by the power of two of the last place, and the quotient is rounded to the
  nearest integer. A finite value is the result for every ratio that is nearer to
  it than to its neighbours, and for those half way if its mantissa is even.
-/

namespace DocSite

namespace Binary64

/-! ## Rounding to an integer -/

/-- A quotient rounds to the integer within half a unit of it, to an even one at exactly a half. -/
theorem divNearest_eq {n d m : Nat} (hd : 0 < d) (hlow : 2 * m * d ≤ 2 * n + d)
    (hhigh : 2 * n ≤ 2 * m * d + d)
    (hodd : m % 2 = 1 → 2 * m * d < 2 * n + d ∧ 2 * n < 2 * m * d + d) : divNearest n d = m := by
  have hn : d * (n / d) + n % d = n := Nat.div_add_mod n d
  have hr : n % d < d := Nat.mod_lt n hd
  -- With quotient `q` and rest `r`, the result is `q` or `q + 1`, and twice the rest tells which.
  unfold divNearest
  generalize n / d = q at *
  generalize n % d = r at *
  subst hn
  have hle : q ≤ m := by
    by_contra hlt
    have hmul : (m + 1) * d ≤ q * d := Nat.mul_le_mul_right d (by omega)
    linarith
  have hge : m ≤ q + 1 := by
    by_contra hlt
    have hmul : (q + 2) * d ≤ m * d := Nat.mul_le_mul_right d (by omega)
    linarith
  have hcases : m = q ∨ m = q + 1 := by omega
  simp only
  rcases hcases with rfl | rfl
  · have hhalf : 2 * r ≤ d := by linarith
    have htie : m % 2 = 1 → 2 * r < d := by
      intro hm
      have := (hodd hm).2
      linarith
    rw [if_neg]
    simp only [Bool.or_eq_true, decide_eq_true_eq, Bool.and_eq_true, beq_iff_eq, not_or, not_and]
    omega
  · have hhalf : d ≤ 2 * r := by linarith
    have htie : (q + 1) % 2 = 1 → d < 2 * r := by
      intro hm
      have := (hodd hm).1
      linarith
    rw [if_pos]
    simp only [Bool.or_eq_true, decide_eq_true_eq, Bool.and_eq_true, beq_iff_eq]
    omega

/-- A rounded quotient is the whole part or the integer after it. -/
theorem divNearest_bounds (n d : Nat) : n / d ≤ divNearest n d ∧ divNearest n d ≤ n / d + 1 := by
  unfold divNearest
  simp only
  split
  · omega
  · omega

/-! ## Powers of two -/

theorem two_zpow_pos (k : Int) : (0 : ℚ) < 2 ^ k := zpow_pos (by norm_num) k

/-- Powers of two are ordered as their exponents. -/
theorem two_zpow_lt_iff {j k : Int} : (2 : ℚ) ^ j < 2 ^ k ↔ j < k :=
  zpow_lt_zpow_iff_right₀ (by norm_num)

theorem two_zpow_add_nat (k : Int) (j : Nat) : (2 : ℚ) ^ (k + j) = 2 ^ k * 2 ^ j := by
  rw [zpow_add₀ (by norm_num), zpow_natCast]

/-- A power is the quotient of two powers with natural exponents. -/
theorem zpow_eq_ite (b : Nat) (k : Int) :
    (b : ℚ) ^ k = if 0 ≤ k then ((b ^ k.toNat : Nat) : ℚ) else 1 / ((b ^ (-k).toNat : Nat) : ℚ) := by
  split
  · rename_i hk
    obtain ⟨j, rfl⟩ := Int.eq_ofNat_of_zero_le hk
    simp
  · rename_i hk
    obtain ⟨j, rfl⟩ : ∃ j : Nat, k = -(j : Int) := ⟨(-k).toNat, by omega⟩
    simp

theorem two_zpow_eq (k : Int) :
    (2 : ℚ) ^ k = if 0 ≤ k then ((2 ^ k.toNat : Nat) : ℚ) else 1 / ((2 ^ (-k).toNat : Nat) : ℚ) :=
  mod_cast zpow_eq_ite 2 k

/-- The binary exponent of a ratio is the greatest one whose power does not exceed it. -/
theorem log2Ratio_spec {n d : Nat} (hn : 0 < n) (hd : 0 < d) :
    (2 : ℚ) ^ log2Ratio n d ≤ n / d ∧ (n : ℚ) / d < 2 ^ (log2Ratio n d + 1) := by
  have hdq : (0 : ℚ) < d := by exact_mod_cast hd
  have hnlow : ((2 : ℚ) ^ n.log2) ≤ n := by exact_mod_cast Nat.log2_self_le (by omega)
  have hnhigh : (n : ℚ) < 2 ^ (n.log2 + 1) := by exact_mod_cast Nat.lt_log2_self
  have hdlow : ((2 : ℚ) ^ d.log2) ≤ d := by exact_mod_cast Nat.log2_self_le (by omega)
  have hdhigh : (d : ℚ) < 2 ^ (d.log2 + 1) := by exact_mod_cast Nat.lt_log2_self
  -- The difference of the exponents is right, or one too large.
  have hup : (n : ℚ) / d < 2 ^ ((n.log2 : Int) - d.log2 + 1) := by
    rw [div_lt_iff₀ hdq]
    calc (n : ℚ) < 2 ^ (n.log2 + 1) := hnhigh
      _ = 2 ^ ((n.log2 : Int) - d.log2 + 1) * 2 ^ d.log2 := by
        rw [← two_zpow_add_nat, ← zpow_natCast]
        congr 1
        push_cast
        ring
      _ ≤ 2 ^ ((n.log2 : Int) - d.log2 + 1) * d :=
        mul_le_mul_of_nonneg_left hdlow (two_zpow_pos _).le
  have hdown : (2 : ℚ) ^ ((n.log2 : Int) - d.log2 - 1) < n / d := by
    rw [lt_div_iff₀ hdq]
    calc (2 : ℚ) ^ ((n.log2 : Int) - d.log2 - 1) * d
        < 2 ^ ((n.log2 : Int) - d.log2 - 1) * 2 ^ (d.log2 + 1) :=
        mul_lt_mul_of_pos_left hdhigh (two_zpow_pos _)
      _ = 2 ^ n.log2 := by
        rw [← two_zpow_add_nat, ← zpow_natCast]
        congr 1
        push_cast
        ring
      _ ≤ n := hnlow
  unfold log2Ratio
  generalize (n.log2 : Int) - d.log2 = k at hup hdown
  have hreached : (if 0 ≤ k then d * Nat.pow 2 k.toNat ≤ n else d ≤ n * Nat.pow 2 (-k).toNat) ↔
      (2 : ℚ) ^ k ≤ n / d := by
    rw [le_div_iff₀ hdq, two_zpow_eq]
    split
    · rw [mul_comm]
      exact_mod_cast Iff.rfl
    · have hpos : (0 : ℚ) < ((2 ^ (-k).toNat : Nat) : ℚ) := by positivity
      rw [one_div_mul_eq_div, div_le_iff₀ hpos]
      exact_mod_cast Iff.rfl
  by_cases h : (2 : ℚ) ^ k ≤ n / d
  · simp only [if_pos (hreached.2 h)]
    exact ⟨h, hup⟩
  · simp only [if_neg (mt hreached.1 h), sub_add_cancel]
    exact ⟨hdown.le, lt_of_not_ge h⟩

/-- An exponent between whose powers a ratio lies is its binary exponent. -/
theorem log2Ratio_eq {n d : Nat} (hn : 0 < n) (hd : 0 < d) {k : Int} (hlow : (2 : ℚ) ^ k ≤ n / d)
    (hhigh : (n : ℚ) / d < 2 ^ (k + 1)) : log2Ratio n d = k := by
  obtain ⟨h1, h2⟩ := log2Ratio_spec hn hd
  have hle : log2Ratio n d < k + 1 := two_zpow_lt_iff.1 (h1.trans_lt hhigh)
  have hge : k < log2Ratio n d + 1 := two_zpow_lt_iff.1 (hlow.trans_lt h2)
  omega

/-! ## Rounding in units of the last place -/

/-- A ratio in units of a power of two, rounded to an integer. -/
def nearestIn (n d : Nat) (e : Int) : Nat :=
  if 0 ≤ e then divNearest n (d * Nat.pow 2 e.toNat) else divNearest (n * Nat.pow 2 (-e).toNat) d

/-- The quotient that is rounded is the ratio in units of the power of two. -/
theorem nearestIn_eq_divNearest (n : Nat) {d : Nat} (hd : 0 < d) (e : Int) :
    ∃ num den : Nat, 0 < den ∧ nearestIn n d e = divNearest num den ∧
      (num : ℚ) / den = n / d / 2 ^ e := by
  unfold nearestIn
  rw [two_zpow_eq]
  split
  · refine ⟨n, d * Nat.pow 2 e.toNat, Nat.mul_pos hd (Nat.two_pow_pos _), rfl, ?_⟩
    rw [Nat.pow_eq, Nat.cast_mul, div_div]
  · refine ⟨n * Nat.pow 2 (-e).toNat, d, hd, rfl, ?_⟩
    have hpos : (0 : ℚ) < ((2 ^ (-e).toNat : Nat) : ℚ) := by positivity
    rw [Nat.pow_eq, Nat.cast_mul]
    field_simp

/-- A ratio within half a unit of an integer number of units rounds to it. -/
theorem nearestIn_eq {n d m : Nat} {e : Int} (hd : 0 < d)
    (hlow : ((m : ℚ) - 1 / 2) * 2 ^ e ≤ n / d) (hhigh : (n : ℚ) / d ≤ (m + 1 / 2) * 2 ^ e)
    (hodd : m % 2 = 1 → ((m : ℚ) - 1 / 2) * 2 ^ e < n / d ∧ (n : ℚ) / d < (m + 1 / 2) * 2 ^ e) :
    nearestIn n d e = m := by
  obtain ⟨num, den, hden, heq, hquot⟩ := nearestIn_eq_divNearest n hd e
  have hdenq : (0 : ℚ) < den := by exact_mod_cast hden
  have hpow := two_zpow_pos e
  -- The bounds are taken over to the fraction whose quotient is rounded.
  rw [← le_div_iff₀ hpow, ← hquot, le_div_iff₀ hdenq] at hlow
  rw [← div_le_iff₀ hpow, ← hquot, div_le_iff₀ hdenq] at hhigh
  rw [← lt_div_iff₀ hpow, ← div_lt_iff₀ hpow, ← hquot, lt_div_iff₀ hdenq, div_lt_iff₀ hdenq] at hodd
  rw [heq]
  refine divNearest_eq hden ?_ ?_ fun hm => ?_
  · have : (2 * m * den : ℚ) ≤ 2 * num + den := by linarith
    exact_mod_cast this
  · have : (2 * num : ℚ) ≤ 2 * m * den + den := by linarith
    exact_mod_cast this
  · obtain ⟨h1, h2⟩ := hodd hm
    have hl : (2 * m * den : ℚ) < 2 * num + den := by linarith
    have hh : (2 * num : ℚ) < 2 * m * den + den := by linarith
    exact ⟨by exact_mod_cast hl, by exact_mod_cast hh⟩

/-! ## Doubles -/

/-- A mantissa and an exponent of the format: the mantissa uses the full precision, unless the
exponent is the least one. -/
structure Fits (m : Nat) (e : Int) : Prop where
  lt : m < 2 * leastNormal
  low : minExponent ≤ e
  high : e ≤ maxExponent
  normal : leastNormal ≤ m ∨ e = minExponent

/-- The finite values of the format are kept in one form only. -/
def IsDouble : Binary64 → Prop
  | .finite _ m e => Fits m e
  | _ => True

/-- How far below a value, in units of its last place, numbers still round to it. The values below
a power of two lie twice as close. -/
def roomBelow (m : Nat) (e : Int) : ℚ := if m = leastNormal ∧ minExponent < e then 1 / 4 else 1 / 2

/-- The numbers that round to a value: those between the middles to its neighbours, with the
middles themselves if its mantissa is even. -/
structure RoundsTo (q : ℚ) (m : Nat) (e : Int) : Prop where
  low : ((m : ℚ) - roomBelow m e) * 2 ^ e ≤ q
  high : q ≤ (m + 1 / 2) * 2 ^ e
  odd : m % 2 = 1 → ((m : ℚ) - roomBelow m e) * 2 ^ e < q ∧ q < (m + 1 / 2) * 2 ^ e

theorem roomBelow_le (m : Nat) (e : Int) : roomBelow m e ≤ 1 / 2 := by
  unfold roomBelow
  split
  · norm_num
  · norm_num

/-- The value for a rounded mantissa and its exponent, once a carry is taken care of. -/
def carried (negative : Bool) (m : Nat) (e : Int) : Binary64 :=
  let (m, e) := if m = 2 * leastNormal then (leastNormal, e + 1) else (m, e)
  if maxExponent < e then .infinite negative else .finite negative m e

theorem ofRatio_eq_carried (negative : Bool) {n : Nat} (hn : n ≠ 0) (d : Nat) :
    ofRatio negative n d =
      carried negative (nearestIn n d (max (log2Ratio n d - 52) minExponent))
        (max (log2Ratio n d - 52) minExponent) := by
  rw [ofRatio, if_neg hn]
  rfl

theorem carried_of_fits {negative : Bool} {m : Nat} {e : Int} (h : Fits m e) :
    carried negative m e = .finite negative m e := by
  have hcarry : m ≠ 2 * leastNormal := h.lt.ne
  have hmax : ¬ maxExponent < e := by
    have := h.high
    omega
  simp only [carried, if_neg hcarry, if_neg hmax]

theorem RoundsTo.pos {q : ℚ} {m : Nat} {e : Int} (hm : 0 < m) (h : RoundsTo q m e) : 0 < q := by
  have hmq : (1 : ℚ) ≤ m := by exact_mod_cast hm
  have hroom := roomBelow_le m e
  have hpos : (0 : ℚ) < m - roomBelow m e := by linarith
  exact lt_of_lt_of_le (mul_pos hpos (two_zpow_pos e)) h.low

theorem RoundsTo.lt_two_zpow {q : ℚ} {m : Nat} {e : Int} (hfits : Fits m e) (h : RoundsTo q m e) :
    q < 2 ^ (e + 53) := by
  have hlt : (m : ℚ) + 1 ≤ 2 ^ 53 := by
    have hnat : m + 1 ≤ 2 ^ 53 := hfits.lt
    exact_mod_cast hnat
  calc q ≤ (m + 1 / 2) * 2 ^ e := h.high
    _ < 2 ^ 53 * 2 ^ e := mul_lt_mul_of_pos_right (by linarith) (two_zpow_pos e)
    _ = 2 ^ (e + 53) := by
      rw [mul_comm]
      exact (two_zpow_add_nat e 53).symm

/-- Unless it lies right below a power of two, a ratio has the exponent of the value that it
rounds to. -/
theorem exponent_of_roundsTo {n d m : Nat} {e : Int} (hn : 0 < n) (hd : 0 < d) (hfits : Fits m e)
    (h : RoundsTo (n / d) m e)
    (habove : m = leastNormal → minExponent < e → (2 : ℚ) ^ (e + 52) ≤ n / d) :
    max (log2Ratio n d - 52) minExponent = e := by
  obtain ⟨hlog, hlog'⟩ := log2Ratio_spec hn hd
  have hup : log2Ratio n d < e + 53 := two_zpow_lt_iff.1 (hlog.trans_lt (h.lt_two_zpow hfits))
  have hmin := hfits.low
  -- The least exponent is taken whatever the ratio is; above it, the mantissa has all its bits.
  by_cases he : e = minExponent
  · omega
  · have hnormal : leastNormal ≤ m := hfits.normal.resolve_right he
    have hdown : (2 : ℚ) ^ (e + 52) ≤ n / d := by
      by_cases hm : m = leastNormal
      · exact habove hm (by omega)
      · -- Above the least mantissa there is room for half a unit below it.
        have hmq : (2 : ℚ) ^ 52 + 1 ≤ m := by
          have hnat : 2 ^ 52 + 1 ≤ m := by
            unfold leastNormal at hnormal hm
            omega
          exact_mod_cast hnat
        have hroom := roomBelow_le m e
        calc (2 : ℚ) ^ (e + 52) = 2 ^ 52 * 2 ^ e := by
              rw [mul_comm]
              exact two_zpow_add_nat e 52
          _ ≤ (m - roomBelow m e) * 2 ^ e :=
            mul_le_mul_of_nonneg_right (by linarith) (two_zpow_pos e).le
          _ ≤ n / d := h.low
    have hlow : e + 52 < log2Ratio n d + 1 := two_zpow_lt_iff.1 (hdown.trans_lt hlog')
    omega

/-- Right below a power of two the mantissa is rounded up to it, and carried. -/
theorem ofRatio_below_power {negative : Bool} {n d : Nat} {e : Int} (hn : 0 < n) (hd : 0 < d)
    (he : minExponent < e) (hmax : e ≤ maxExponent)
    (hlow : ((leastNormal : ℚ) - 1 / 4) * 2 ^ e ≤ n / d) (hhigh : (n : ℚ) / d < 2 ^ (e + 52)) :
    ofRatio negative n d = .finite negative leastNormal e := by
  have hleast : (leastNormal : ℚ) = 2 ^ 52 := by norm_num [leastNormal]
  -- The ratio belongs to the exponent below, where the unit is half as large.
  have hhalf : (2 : ℚ) ^ e = 2 ^ (e - 1) * 2 := by
    rw [← zpow_add_one₀ (by norm_num), sub_add_cancel]
  have hpow := two_zpow_pos (e - 1)
  have hlog : log2Ratio n d = e + 51 := by
    apply log2Ratio_eq hn hd
    · refine le_trans ?_ hlow
      rw [hleast, show e + 51 = e - 1 + (52 : Nat) by omega, two_zpow_add_nat, hhalf]
      nlinarith
    · rw [show e + 51 + 1 = e + 52 by omega]
      exact hhigh
  have hexp : max (log2Ratio n d - 52) minExponent = e - 1 := by omega
  -- In these smaller units the ratio is within half a unit of the power of two.
  have hround : nearestIn n d (e - 1) = 2 * leastNormal := by
    have hpower : (2 : ℚ) ^ (e + 52) = 2 ^ (e - 1) * 2 ^ 53 := by
      rw [show e + 52 = e - 1 + (53 : Nat) by omega, two_zpow_add_nat]
    have htwice : ((2 * leastNormal : Nat) : ℚ) = 2 ^ 53 := by norm_num [leastNormal]
    refine nearestIn_eq hd ?_ ?_ fun hodd => absurd hodd (by decide)
    · rw [htwice]
      rw [hleast, hhalf] at hlow
      linarith
    · rw [htwice]
      rw [hpower] at hhigh
      nlinarith
  rw [ofRatio_eq_carried negative hn.ne', hexp, hround]
  have hmax' : ¬ maxExponent < e := by omega
  simp only [carried, if_true, sub_add_cancel, if_neg hmax']

/-- A ratio that rounds to a finite value is rounded to it. -/
theorem ofRatio_of_roundsTo {negative : Bool} {n d m : Nat} {e : Int} (hd : 0 < d) (hm : 0 < m)
    (hfits : Fits m e) (h : RoundsTo (n / d) m e) : ofRatio negative n d = .finite negative m e := by
  have hn : 0 < n := by
    have hq := h.pos hm
    rcases Nat.eq_zero_or_pos n with rfl | hn
    · simp at hq
    · exact hn
  -- Right below a power of two the exponent is one less than that of the result.
  by_cases hbelow : m = leastNormal ∧ minExponent < e ∧ (n : ℚ) / d < 2 ^ (e + 52)
  · obtain ⟨rfl, he, hhigh⟩ := hbelow
    have hlow := h.low
    rw [roomBelow, if_pos ⟨rfl, he⟩] at hlow
    exact ofRatio_below_power hn hd he hfits.high hlow hhigh
  · have hexp : max (log2Ratio n d - 52) minExponent = e :=
      exponent_of_roundsTo hn hd hfits h fun hm' he => le_of_not_gt fun hlt =>
        hbelow ⟨hm', he, hlt⟩
    have hroom := roomBelow_le m e
    have hround : nearestIn n d e = m := by
      refine nearestIn_eq hd ?_ h.high fun hodd => ⟨?_, (h.odd hodd).2⟩
      · refine le_trans ?_ h.low
        exact mul_le_mul_of_nonneg_right (by linarith) (two_zpow_pos e).le
      · refine lt_of_le_of_lt ?_ (h.odd hodd).1
        exact mul_le_mul_of_nonneg_right (by linarith) (two_zpow_pos e).le
    rw [ofRatio_eq_carried negative hn.ne', hexp, hround, carried_of_fits hfits]

/-! ## Rounding gives doubles -/

/-- A ratio between two integer numbers of units is rounded to an integer between them. -/
theorem nearestIn_bounds {n d low high : Nat} {e : Int} (hd : 0 < d)
    (hlow : (low : ℚ) * 2 ^ e ≤ n / d) (hhigh : (n : ℚ) / d < high * 2 ^ e) :
    low ≤ nearestIn n d e ∧ nearestIn n d e ≤ high := by
  obtain ⟨num, den, hden, heq, hquot⟩ := nearestIn_eq_divNearest n hd e
  have hdenq : (0 : ℚ) < den := by exact_mod_cast hden
  have hpow := two_zpow_pos e
  rw [← le_div_iff₀ hpow, ← hquot, le_div_iff₀ hdenq] at hlow
  rw [← div_lt_iff₀ hpow, ← hquot, div_lt_iff₀ hdenq] at hhigh
  have hfloor : low ≤ num / den := (Nat.le_div_iff_mul_le hden).2 (by exact_mod_cast hlow)
  have hceil : num / den < high := (Nat.div_lt_iff_lt_mul hden).2 (by exact_mod_cast hhigh)
  obtain ⟨h1, h2⟩ := divNearest_bounds num den
  rw [heq]
  omega

/-- The least full mantissa in units of a power of two. -/
theorem leastNormal_mul (e : Int) : (leastNormal : ℚ) * 2 ^ e = 2 ^ (e + 52) := by
  rw [mul_comm, show (leastNormal : ℚ) = 2 ^ 52 by norm_num [leastNormal]]
  exact (two_zpow_add_nat e 52).symm

theorem isDouble_zero (negative : Bool) : (zero negative).IsDouble :=
  ⟨by decide, by decide, by decide, .inr rfl⟩

theorem isDouble_carried {negative : Bool} {m : Nat} {e : Int} (hm : m ≤ 2 * leastNormal)
    (he : minExponent ≤ e) (hnormal : leastNormal ≤ m ∨ e = minExponent) :
    (carried negative m e).IsDouble := by
  unfold carried
  by_cases hcarry : m = 2 * leastNormal
  · simp only [if_pos hcarry]
    split
    · trivial
    · exact ⟨by decide, by omega, by omega, .inl le_rfl⟩
  · simp only [if_neg hcarry]
    split
    · trivial
    · exact ⟨by omega, he, by omega, hnormal⟩

/-- Every ratio is rounded to a value of the format. -/
theorem isDouble_ofRatio (negative : Bool) (n : Nat) {d : Nat} (hd : 0 < d) :
    (ofRatio negative n d).IsDouble := by
  by_cases hn : n = 0
  · rw [ofRatio, if_pos hn]
    exact isDouble_zero negative
  · rw [ofRatio_eq_carried negative hn]
    obtain ⟨hlow, hhigh⟩ := log2Ratio_spec (Nat.pos_of_ne_zero hn) hd
    generalize log2Ratio n d = k at hlow hhigh
    -- With an exponent of its own a ratio has a full mantissa; below the least one it has what is
    -- left.
    by_cases hk : minExponent ≤ k - 52
    · have hexp : max (k - 52) minExponent = k - 52 := by omega
      have hbounds : leastNormal ≤ nearestIn n d (k - 52) ∧
          nearestIn n d (k - 52) ≤ 2 * leastNormal := by
        apply nearestIn_bounds hd
        · rw [leastNormal_mul, sub_add_cancel]
          exact hlow
        · rw [Nat.cast_mul, mul_assoc, leastNormal_mul, sub_add_cancel, mul_comm]
          rwa [zpow_add_one₀ (by norm_num)] at hhigh
      rw [hexp]
      exact isDouble_carried hbounds.2 hk (.inl hbounds.1)
    · have hexp : max (k - 52) minExponent = minExponent := by omega
      have hbounds : 0 ≤ nearestIn n d minExponent ∧ nearestIn n d minExponent ≤ leastNormal := by
        apply nearestIn_bounds hd
        · rw [Nat.cast_zero, zero_mul]
          positivity
        · rw [leastNormal_mul]
          exact lt_of_lt_of_le hhigh (zpow_le_zpow_right₀ (by norm_num) (by omega))
      rw [hexp]
      generalize hmin : minExponent = e at hbounds ⊢
      exact isDouble_carried (by omega) hmin.le (.inr hmin.symm)

theorem isDouble_ofInt (n : Int) : (ofInt n).IsDouble := isDouble_ofRatio _ _ Nat.one_pos

theorem isDouble_ofDecimal (d : Decimal) : (ofDecimal d).IsDouble := by
  unfold ofDecimal
  split
  · exact isDouble_zero _
  · simp only
    split
    · trivial
    · split
      · exact isDouble_zero _
      · split
        · exact isDouble_ofRatio _ _ Nat.one_pos
        · exact isDouble_ofRatio _ _ (Nat.pow_pos (by decide))

/-- A number that is read is a value of the format. -/
theorem isDouble_of_parse? {cs : List Char} {x : Binary64} (h : parse? cs = some x) :
    x.IsDouble := by
  obtain ⟨numeral, -, rfl⟩ := Option.map_eq_some_iff.1 h
  cases numeral with
  | nan => trivial
  | infinite negative => trivial
  | decimal value => exact isDouble_ofDecimal value

end Binary64

end DocSite
