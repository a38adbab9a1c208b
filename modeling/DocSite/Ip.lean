import DocSite.Text.Split
import DocSite.Number.Decimal

/-!
# Internet addresses

  Addresses of both versions as numbers, their strict texts (four decimal bytes,
  eight hexadecimal groups with at most one `::`) and the texts they are shown by.
-/

namespace DocSite

namespace Ip

open DocSite.Text

/-! ## Version 4 -/

/-- A byte in decimal, without leading zeros. -/
def byte? (cs : List Char) : Option Nat :=
  let n := Numeral.natOfDigits cs
  if cs.isEmpty || 3 < cs.length || !cs.all Char.isDigit then none
  else if 1 < cs.length && cs.head? = some '0' then none
  else if n ≤ 255 then some n else none

/-- Four bytes separated by dots. -/
def v4? (cs : List Char) : Option Nat :=
  match (splitOn '.' cs).mapM byte? with
  | some [a, b, c, d] => some (((a * 256 + b) * 256 + c) * 256 + d)
  | _ => none

/-- The text of a version 4 address. -/
def v4Text (n : Nat) : String :=
  joinText "." ([n / 16777216 % 256, n / 65536 % 256, n / 256 % 256, n % 256].map toString)

/-! ## Version 6 -/

/-- A group of up to four hexadecimal digits. -/
def group? (cs : List Char) : Option Nat :=
  if cs.isEmpty || 4 < cs.length || !cs.all isHexDigit then none else some (readDigits 16 cs)

/-- Groups separated by colons; a version 4 address may stand for the last two. -/
def groups? (allowV4 : Bool) : List (List Char) → Option (List Nat)
  | [] => some []
  | [last] =>
    match group? last with
    | some g => some [g]
    | none => if allowV4 then (v4? last).map fun n => [n / 65536, n % 65536] else none
  | part :: rest => do
    let g ← group? part
    return g :: (← groups? allowV4 rest)

/-- The groups of a text; none for the empty text. -/
def groupsOf? (allowV4 : Bool) (cs : List Char) : Option (List Nat) :=
  if cs.isEmpty then some [] else groups? allowV4 (splitOn ':' cs)

/-- The texts before and after the first `::`. -/
def splitGap : List Char → Option (List Char × List Char)
  | ':' :: ':' :: rest => some ([], rest)
  | c :: rest => (splitGap rest).map fun (head, tail) => (c :: head, tail)
  | [] => none

/-- The eight groups of a version 6 address. -/
def v6? (cs : List Char) : Option (List Nat) :=
  match splitGap cs with
  | none => do
    let groups ← groupsOf? true cs
    if groups.length = 8 then some groups else none
  | some (head, tail) => do
    let before ← groupsOf? false head
    let after ← groupsOf? true tail
    if before.length + after.length ≤ 7 then
      some (before ++ List.replicate (8 - before.length - after.length) 0 ++ after)
    else none

/-- The length of the run of zeros at the front. -/
def zeroRun (groups : List Nat) : Nat := (groups.takeWhile (· == 0)).length

/-- The start and length of the first longest run of zeros; `position` is the index of the front. -/
def longestZeros : (position : Nat) → List Nat → Nat × Nat
  | _, [] => (0, 0)
  | position, g :: rest =>
    let here := zeroRun (g :: rest)
    let later := longestZeros (position + 1) rest
    if here ≠ 0 && later.2 ≤ here then (position, here) else later

/-- Groups in hexadecimal, separated by colons. -/
def groupsText (groups : List Nat) : String := joinText ":" (groups.map lowerHex)

/-- The text of a version 6 address: the first longest run of two or more zero groups is left
out. -/
def v6Text (groups : List Nat) : String :=
  let (start, length) := longestZeros 0 groups
  if length < 2 then groupsText groups
  else groupsText (groups.take start) ++ "::" ++ groupsText (groups.drop (start + length))

end Ip

/-! ## Either version -/

/-- An internet address. -/
inductive IpAddress where
  | v4 (value : Nat)
  | v6 (groups : List Nat)
  deriving DecidableEq, Repr

namespace IpAddress

/-- Reads an address of either version. -/
def parse? (s : String) : Option IpAddress :=
  match Ip.v4? s.toList with
  | some n => some (.v4 n)
  | none => (Ip.v6? s.toList).map .v6

/-- The text of an address; one that embeds a version 4 address shows it. -/
def text : IpAddress → String
  | .v4 n => Ip.v4Text n
  | .v6 groups =>
    match groups with
    | [0, 0, 0, 0, 0, 0xffff, high, low] => "::ffff:" ++ Ip.v4Text (high * 65536 + low)
    | groups => Ip.v6Text groups

/-- Whether the address is one of the machine's own. -/
def isLoopback : IpAddress → Bool
  | .v4 n => n / 16777216 == 127
  | .v6 groups => groups == [0, 0, 0, 0, 0, 0, 0, 1]

end IpAddress

end DocSite
