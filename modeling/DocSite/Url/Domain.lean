import DocSite.Url.Direction
import DocSite.Url.Joining
import DocSite.Url.Punycode

/-!
# Host names in ASCII

  The ASCII form of a host name: characters are folded, the name is normalized,
  and a label that still is not ASCII is written in Punycode behind `xn--`.
-/

namespace DocSite.Url.Domain

open DocSite.Text

/-! ## Characters -/

/-- How characters are folded. -/
def foldTable : List Entry := entries DomainData.mappings

/-- The characters that are refused. -/
def refusedTable : List Entry := entries DomainData.refused

/-- Combining marks. -/
def markTable : List Entry := entries DomainData.marks

/-- Whether a character is a combining mark. -/
def isMark (n : Nat) : Bool := markTable.any (·.holds n)

/-- ASCII characters that no host name holds. -/
def isForbidden (c : Char) : Bool :=
  c.toNat ≤ 0x20 || c.toNat == 0x7f || ("%#/:<>?@[\\]^|".toList).contains c

/-- The folded form of a character; none if it is not allowed in a host name. -/
def fold? (c : Char) : Option (List Nat) :=
  if c.toNat < 0x80 then some [c.toLower.toNat]
  else
    match foldTable.find? (·.holds c.toNat) with
    | some e => some (e.imageOf c.toNat)
    | none => if refusedTable.any (·.holds c.toNat) then none else some [c.toNat]

/-! ## Labels -/

/-- The most characters of a label that is not ASCII. -/
def longestLabel : Nat := 1000

/-- The most characters of a label in Punycode, behind `xn--`. -/
def longestEncoded : Nat := 2000

/-- Whether a label is in normal form and holds only what may stand in a host name. -/
def isValidLabel (codes : List Nat) : Bool :=
  match codes with
  | [] => false
  | first :: _ =>
    !isMark first && codes.length ≤ longestLabel && Joining.allFit [] codes &&
      normalize codes == codes && codes.all fun n => fold? (Char.ofNat n) == some [n]

/-- The characters of code points. -/
def charsOf (codes : List Nat) : List Char := codes.map Char.ofNat

/-- A label of a host name: the code points that it stands for, and its form in ASCII. -/
structure Label where
  codes : List Nat
  ascii : List Char

/-- The label of folded code points. One that is in Punycode must stand for a valid one. -/
def label? (codes : List Nat) : Option Label :=
  let chars := charsOf codes
  match dropStart? "xn--".toList chars with
  | some encoded => do
    if !encoded.all (·.toNat < 0x80) || longestEncoded < encoded.length then none
    else
      let decoded := (← Punycode.decode? encoded).map Char.toNat
      -- Punycode for what could be written in ASCII is refused.
      if decoded.any (0x80 ≤ ·) && isValidLabel decoded then some ⟨decoded, chars⟩ else none
  | none =>
    if codes.all (· < 0x80) then some ⟨codes, chars⟩
    else if isValidLabel codes then some ⟨codes, "xn--".toList ++ Punycode.encode chars⟩
    else none

/-- The ASCII form of a host name. -/
def toAscii? (name : List Char) : Option (List Char) := do
  let codes := (← name.mapM fold?).flatten
  let normal := if codes.all (· < 0x80) then codes else normalize codes
  let labels ← (splitOn '.' (charsOf normal)).mapM fun label => label? (label.map Char.toNat)
  let ascii := joinWith ['.'] (labels.map (·.ascii))
  if ascii.any isForbidden || !Direction.allFit (labels.map (·.codes)) then none else some ascii

end DocSite.Url.Domain
