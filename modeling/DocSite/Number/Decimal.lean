/-!
# Decimal numerals

  A number as it is written: a sign, digits, a power of ten, or one of the words
  for the values that are not numbers. Reading keeps the exact decimal; rounding
  to a machine number is a separate step.
-/

namespace DocSite

/-- The exact decimal `± digits · 10 ^ exponent`. -/
structure Decimal where
  negative : Bool
  digits : Nat
  exponent : Int
  deriving DecidableEq, Repr

namespace Decimal

/-- The decimal zero. -/
def zero : Decimal := ⟨false, 0, 0⟩

/-- The value as an exact fraction. -/
def toRat (d : Decimal) : Rat :=
  let magnitude : Rat :=
    if 0 ≤ d.exponent then ((d.digits * Nat.pow 10 d.exponent.toNat : Nat) : Rat)
    else mkRat d.digits (Nat.pow 10 (-d.exponent).toNat)
  if d.negative then -magnitude else magnitude

end Decimal

/-- What a written number denotes. -/
inductive Numeral where
  | nan
  | infinite (negative : Bool)
  | decimal (value : Decimal)
  deriving DecidableEq, Repr

namespace Numeral

/-! ## Reading -/

/-- Takes an optional sign off; the flag tells a minus. -/
def takeSign : List Char → Bool × List Char
  | '-' :: rest => (true, rest)
  | '+' :: rest => (false, rest)
  | cs => (false, cs)

/-- The value of a sequence of decimal digits. -/
def natOfDigits (cs : List Char) : Nat :=
  cs.foldl (fun n c => n * 10 + (c.toNat - '0'.toNat)) 0

/-- An exponent part: nothing, or `e` with an optionally signed sequence of digits. -/
def readExponent? : List Char → Option Int
  | [] => some 0
  | c :: rest =>
    if c == 'e' || c == 'E' then
      let (negative, digits) := takeSign rest
      if digits.isEmpty || !digits.all Char.isDigit then none
      else some (if negative then -(natOfDigits digits : Int) else natOfDigits digits)
    else none

/-- The digits after a decimal point, and what follows them. -/
def takeFraction : List Char → List Char × List Char
  | '.' :: rest => rest.span Char.isDigit
  | cs => ([], cs)

/-- Digits with an optional point and exponent; one digit at least. -/
def readDecimal? (negative : Bool) (cs : List Char) : Option Numeral :=
  let (whole, rest) := cs.span Char.isDigit
  let (fraction, rest) := takeFraction rest
  if whole.isEmpty && fraction.isEmpty then none
  else (readExponent? rest).map fun e =>
    .decimal ⟨negative, natOfDigits (whole ++ fraction), e - fraction.length⟩

/-- Reads a number: decimal notation, or `inf`, `infinity` and `nan` in any case, each with
an optional sign. -/
def parse? (cs : List Char) : Option Numeral :=
  let (negative, body) := takeSign cs
  let word := body.map Char.toLower
  if word = "inf".toList || word = "infinity".toList then some (.infinite negative)
  else if word = "nan".toList then some .nan
  else readDecimal? negative body

end Numeral

end DocSite
