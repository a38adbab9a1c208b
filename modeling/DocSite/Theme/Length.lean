import DocSite.Number.Measure
import DocSite.Number.Shortest
import DocSite.Text.Blank
import DocSite.Theme.Error

/-!
# Lengths

  A length is a decimal with a unit. It is kept as it is written, so that it can
  be measured in doubles, which is what messages and exports show, and in exact
  fractions, which is what laws are about.
-/

namespace DocSite

open DocSite.Text

/-- The units of a length. -/
inductive LengthUnit where
  | px
  | rem
  | em
  deriving DecidableEq, Repr

/-- The text of a unit. -/
def LengthUnit.text : LengthUnit → String
  | .px => "px"
  | .rem => "rem"
  | .em => "em"

/-- A length as it is written. -/
structure Length where
  value : Decimal
  unit : LengthUnit
  deriving DecidableEq, Repr

namespace Length

/-! ## Reading -/

/-- The digits of a length and their power of ten: digits, perhaps with a point among them. -/
def number? (negative : Bool) (cs : List Char) : Option (Decimal × List Char) :=
  let (whole, rest) := cs.span Char.isDigit
  match rest with
  | '.' :: tail =>
    let (fraction, rest) := tail.span Char.isDigit
    if whole.isEmpty && fraction.isEmpty then none
    else some (⟨negative, Numeral.natOfDigits (whole ++ fraction), -(fraction.length : Int)⟩, rest)
  | rest => if whole.isEmpty then none else some (⟨negative, Numeral.natOfDigits whole, 0⟩, rest)

/-- The unit of a length; a missing unit is allowed for zero only. -/
def unit? (value : Decimal) (cs : List Char) : Option LengthUnit :=
  if cs = "px".toList then some .px
  else if cs = "rem".toList then some .rem
  else if cs = "em".toList then some .em
  else if cs.isEmpty && (Binary64.ofDecimal value).isZero then some .px
  else none

/-- Reads a length without blanks around it. -/
def read? (cs : List Char) : Option Length := do
  let (value, rest) ←
    match cs with
    | '-' :: rest => number? true rest
    | cs => number? false cs
  return ⟨value, ← unit? value rest⟩

/-- Reads a length, blanks around it aside. -/
def parse (s : String) : Except ThemeError Length :=
  let cs := trimBoth s.toList
  match read? cs with
  | some length => .ok length
  | none => .error (.malformedLength (String.ofList cs))

/-! ## Measuring -/

/-- Pixels a `rem`, and an `em` at the root. -/
def rootFont : Decimal := ⟨false, 16, 0⟩

/-- The length in pixels. -/
def toPx {α : Type} [Measure α] (length : Length) : α :=
  match length.unit with
  | .px => Measure.ofDecimal length.value
  | _ => Measure.ofDecimal length.value * Measure.ofDecimal rootFont

/-- No length at all. -/
def zero : Length := ⟨Decimal.zero, .px⟩

/-- The text of a length. -/
def text (length : Length) : String :=
  (Binary64.ofDecimal length.value).text ++ length.unit.text

end Length

end DocSite
