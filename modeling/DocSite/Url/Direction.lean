import DocSite.Url.CodePointTable
import DocSite.Url.DomainData

/-!
# Directions in host names

  Some scripts run from right to left, and a host name that mixes them with others
  can be shown in an order that misleads. So as soon as one label of a name has a
  character that runs from right to left, every label keeps to one direction: its
  first character tells which, the last one that is no mark ends it, and digits of
  the two kinds do not meet in a label from right to left.
-/

namespace DocSite.Url.Domain

/-- The way a character runs. -/
inductive Direction where
  | leftToRight
  | rightToLeft
  | arabicDigit
  | europeanDigit
  /-- The character takes the direction of its neighbours. -/
  | neutral
  /-- A mark on the character before it. -/
  | mark
  deriving DecidableEq, Repr

namespace Direction

/-! ## Characters -/

/-- The table of directions above ASCII. -/
def table : List Entry := entries DomainData.directions

/-- The direction that a number of the table stands for. -/
def ofNumber : Nat → Direction
  | 1 => .rightToLeft
  | 2 => .arabicDigit
  | 3 => .europeanDigit
  | 4 => .neutral
  | 5 => .mark
  | _ => .leftToRight

/-- The direction of an ASCII character. -/
def ofAscii (c : Char) : Direction :=
  if c.isAlpha then .leftToRight else if c.isDigit then .europeanDigit else .neutral

/-- The direction of a code point. -/
def ofCode (n : Nat) : Direction :=
  if n < 0x80 then ofAscii (Char.ofNat n)
  else ofNumber (((table.find? (·.holds n)).bind (·.image.head?)).getD 0)

/-! ## Labels -/

/-- Whether a label with this character makes its name one from right to left. -/
def turns : Direction → Bool
  | .rightToLeft => true
  | .arabicDigit => true
  | _ => false

/-- Whether a label from left to right may hold a character. -/
def fitsLeft : Direction → Bool
  | .rightToLeft => false
  | .arabicDigit => false
  | _ => true

/-- Whether a label from left to right may end with a character. -/
def endsLeft (d : Direction) : Bool := d == .leftToRight || d == .europeanDigit

/-- Whether a label from right to left may end with a character. -/
def endsRight (d : Direction) : Bool :=
  d == .rightToLeft || d == .europeanDigit || d == .arabicDigit

/-- The last direction that is not that of a mark; the first one if all others are marks. -/
def lastOf (first : Direction) (rest : List Direction) : Direction :=
  ((rest.reverse.dropWhile (· == .mark)).head?).getD first

/-- Whether a label keeps to the direction of its first character. -/
def fits : List Direction → Bool
  | [] => true
  | .leftToRight :: rest => rest.all fitsLeft && endsLeft (lastOf .leftToRight rest)
  | .rightToLeft :: rest =>
    !rest.contains .leftToRight && endsRight (lastOf .rightToLeft rest) &&
      !(rest.contains .arabicDigit && rest.contains .europeanDigit)
  | _ :: _ => false

/-- Whether all labels of a name keep to one direction each, if the name needs that. -/
def allFit (labels : List (List Nat)) : Bool :=
  let directions := labels.map (·.map ofCode)
  !(directions.any (·.any turns)) || directions.all fits

end Direction

end DocSite.Url.Domain
