import DocSite.Number.Decimal

/-!
# Numbers in double precision

  The values of the 64-bit binary floating-point format, as signed multiples of
  powers of two together with the infinities and one NaN. Every operation
  computes exactly and rounds once, to the nearest value and to the even one of
  two equally near; so each of them can be reasoned about through `Rat`.
-/

namespace DocSite

/-- A double: `± mantissa · 2 ^ exponent`, an infinity, or NaN. -/
inductive Binary64 where
  | nan
  | infinite (negative : Bool)
  | finite (negative : Bool) (mantissa : Nat) (exponent : Int)
  deriving DecidableEq, Repr

namespace Binary64

/-! ## Rounding -/

/-- The exponent of the smallest positive value. -/
def minExponent : Int := -1074

/-- The exponent of the largest finite value. -/
def maxExponent : Int := 971

/-- The least mantissa of a value that uses the full precision, two to the power of 52. -/
def leastNormal : Nat := 0x10000000000000

/-- Zero with a sign. -/
def zero (negative : Bool) : Binary64 := .finite negative 0 minExponent

instance : Inhabited Binary64 := ⟨zero false⟩

/-- A quotient rounded to the nearest integer, a half to the even one. -/
def divNearest (n d : Nat) : Nat :=
  let q := n / d
  let r := n % d
  if 2 * r > d || (2 * r == d && q % 2 == 1) then q + 1 else q

/-- The greatest `k` with `2 ^ k ≤ n / d`, for positive `n` and `d`. -/
def log2Ratio (n d : Nat) : Int :=
  let k : Int := (n.log2 : Int) - d.log2
  let reached := if 0 ≤ k then d * Nat.pow 2 k.toNat ≤ n else d ≤ n * Nat.pow 2 (-k).toNat
  if reached then k else k - 1

/-- The value nearest to `± n / d`. -/
def ofRatio (negative : Bool) (n d : Nat) : Binary64 :=
  if n = 0 then zero negative
  else
    let e := max (log2Ratio n d - 52) minExponent
    let m :=
      if 0 ≤ e then divNearest n (d * Nat.pow 2 e.toNat)
      else divNearest (n * Nat.pow 2 (-e).toNat) d
    -- Rounding up may reach the next power of two.
    let (m, e) := if m = 2 * leastNormal then (leastNormal, e + 1) else (m, e)
    if maxExponent < e then .infinite negative else .finite negative m e

/-- The value nearest to an integer. -/
def ofInt (n : Int) : Binary64 := ofRatio (n < 0) n.natAbs 1

/-- The value nearest to a decimal. Decimals beyond the range are settled by their number of
digits, so that no huge power is formed. -/
def ofDecimal (d : Decimal) : Binary64 :=
  if d.digits = 0 then zero d.negative
  else
    let top : Int := ((Nat.toDigits 10 d.digits).length : Int) + d.exponent
    -- The number of digits settles what lies far outside the range.
    if 310 < top then .infinite d.negative
    else if top < -330 then zero d.negative
    else if 0 ≤ d.exponent then ofRatio d.negative (d.digits * Nat.pow 10 d.exponent.toNat) 1
    else ofRatio d.negative d.digits (Nat.pow 10 (-d.exponent).toNat)

/-- The value of a numeral. -/
def ofNumeral : Numeral → Binary64
  | .nan => .nan
  | .infinite negative => .infinite negative
  | .decimal d => ofDecimal d

/-- Reads a number. -/
def parse? (cs : List Char) : Option Binary64 := (Numeral.parse? cs).map ofNumeral

/-! ## Order -/

/-- The exact value `± m · 2 ^ e`. -/
def scaled (negative : Bool) (m : Nat) (e : Int) : Rat :=
  let magnitude : Rat :=
    if 0 ≤ e then ((m * Nat.pow 2 e.toNat : Nat) : Rat) else mkRat m (Nat.pow 2 (-e).toNat)
  if negative then -magnitude else magnitude

/-- Strict order; NaN is below and above nothing. -/
def lt : Binary64 → Binary64 → Bool
  | .nan, _ => false
  | _, .nan => false
  | .infinite s, .infinite t => s && !t
  | .infinite s, .finite .. => s
  | .finite .., .infinite t => !t
  | .finite s m e, .finite t n f => scaled s m e < scaled t n f

/-- Equality of values: NaN differs from itself and the two zeros are equal. -/
def eqValue (x y : Binary64) : Bool :=
  x != .nan && y != .nan && !lt x y && !lt y x

/-- Order; NaN is comparable to nothing. -/
def le (x y : Binary64) : Bool := lt x y || eqValue x y

/-- Whether the value is a zero of either sign. -/
def isZero : Binary64 → Bool
  | .finite _ m _ => m == 0
  | _ => false

/-- Whether the value is a finite integer. -/
def isInteger : Binary64 → Bool
  | .finite _ m e => 0 ≤ e || m % Nat.pow 2 (-e).toNat == 0
  | _ => false

/-! ## Arithmetic -/

/-- The opposite value. -/
def neg : Binary64 → Binary64
  | .nan => .nan
  | .infinite s => .infinite !s
  | .finite s m e => .finite (!s) m e

/-- A sum; the zero of two values that cancel is positive. -/
def add : Binary64 → Binary64 → Binary64
  | .nan, _ => .nan
  | _, .nan => .nan
  | .infinite s, .infinite t => if s = t then .infinite s else .nan
  | .infinite s, .finite .. => .infinite s
  | .finite .., .infinite t => .infinite t
  | .finite s m e, .finite t n f =>
    let r := scaled s m e + scaled t n f
    if r = 0 then zero (s && t) else ofRatio (r < 0) r.num.natAbs r.den

/-- A product. -/
def mul : Binary64 → Binary64 → Binary64
  | .nan, _ => .nan
  | _, .nan => .nan
  | .infinite s, .infinite t => .infinite (s != t)
  | .infinite s, .finite t n _ => if n = 0 then .nan else .infinite (s != t)
  | .finite s m _, .infinite t => if m = 0 then .nan else .infinite (s != t)
  | .finite s m e, .finite t n f =>
    let r := scaled false (m * n) (e + f)
    ofRatio (s != t) r.num.natAbs r.den

instance : Neg Binary64 := ⟨neg⟩

instance : Add Binary64 := ⟨add⟩

instance : Mul Binary64 := ⟨mul⟩

end Binary64

end DocSite
