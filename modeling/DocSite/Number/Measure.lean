import DocSite.Number.Binary64

/-!
# Measures

  Lengths are compared and added in two ways: as doubles, which is what the
  program does, and as exact fractions, which is what the laws about lengths are
  stated for. `Measure` is the arithmetic the two have in common.
-/

namespace DocSite

/-- A number type in which written lengths can be added, scaled and compared. -/
class Measure (α : Type) extends Add α, Mul α, Neg α where
  /-- The value of a written decimal. -/
  ofDecimal : Decimal → α
  /-- Strict order. -/
  less : α → α → Bool

namespace Measure

variable {α : Type} [Measure α]

/-- Zero. -/
def zero : α := ofDecimal Decimal.zero

/-- A value, or zero when the value is not above zero. -/
def clamp (x : α) : α := if less zero x then x else zero

end Measure

instance : Measure Binary64 where
  ofDecimal := Binary64.ofDecimal
  less := Binary64.lt

instance : Measure Rat where
  ofDecimal := Decimal.toRat
  less x y := x < y

end DocSite
