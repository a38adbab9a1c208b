import DocSite.Url.CodePointTable
import DocSite.Url.DomainData

/-!
# Normal form

  The composed normal form of a text: every character is taken apart, the marks on
  a character are put in the order of their combining classes, and the parts are
  joined again as far as they go.
-/

namespace DocSite.Url.Domain

/-! ## Tables -/

/-- Canonical decompositions. -/
def decompositionTable : List Entry := entries DomainData.decompositions

/-- Combining classes. -/
def classTable : List Entry := entries DomainData.combiningClasses

/-- The combining class of a character. -/
def combiningClass (n : Nat) : Nat :=
  match classTable.find? fun e => e.first ≤ n && n ≤ e.last with
  | some e => e.image.headD 0
  | none => 0

/-! ## Decomposition and composition -/

/-- The canonical decomposition of a Hangul syllable. -/
def decomposeHangul (n : Nat) : List Nat :=
  let s := n - 0xac00
  let lead := [0x1100 + s / 588, 0x1161 + s % 588 / 28]
  if s % 28 = 0 then lead else lead ++ [0x11a7 + s % 28]

/-- The canonical decomposition of a code point; `room` bounds its depth. -/
def decompose : (room : Nat) → Nat → List Nat
  | 0, n => [n]
  | room + 1, n =>
    if 0xac00 ≤ n && n < 0xd7a4 then decomposeHangul n
    else
      match decompositionTable.find? (·.holds n) with
      | some e => e.image.flatMap (decompose room)
      | none => [n]

/-- Adds a code point to a reversed text in canonical order. -/
def insertOrdered (n : Nat) : List Nat → List Nat
  | [] => [n]
  | m :: rest =>
    if combiningClass n ≠ 0 && combiningClass n < combiningClass m then
      m :: insertOrdered n rest
    else n :: m :: rest

/-- The composition of two code points. -/
def composePair? (a b : Nat) : Option Nat :=
  if 0x1100 ≤ a && a < 0x1113 && 0x1161 ≤ b && b < 0x1176 then
    some (0xac00 + ((a - 0x1100) * 21 + (b - 0x1161)) * 28)
  else if 0xac00 ≤ a && a < 0xd7a4 && (a - 0xac00) % 28 = 0 && 0x11a7 < b && b < 0x11c3 then
    some (a + (b - 0x11a7))
  else (decompositionTable.find? fun e => e.reversible && e.image == [a, b]).map (·.first)

/-- A text being composed: what is finished, the last starter, and the marks after it that
did not join it, both lists reversed. -/
structure Composing where
  done : List Nat := []
  starter : Option Nat := none
  pending : List Nat := []

/-- What is composed so far, reversed. -/
def Composing.flush (s : Composing) : List Nat :=
  s.pending ++ s.starter.toList ++ s.done

/-- Takes the next code point. A mark joins the starter unless another of its class or a
higher one stands between. -/
def Composing.next (s : Composing) (n : Nat) : Composing :=
  let k := combiningClass n
  let free := s.pending.all fun m => combiningClass m < k
  match s.starter.bind fun a => if free then composePair? a n else none with
  | some c => { s with starter := some c }
  | none =>
    if k = 0 then { done := s.flush, starter := some n }
    else { s with pending := n :: s.pending }

/-- The normal form: decomposed, ordered and composed. -/
def normalize (codes : List Nat) : List Nat :=
  let ordered := (codes.flatMap (decompose 4)).foldl (fun acc n => insertOrdered n acc) []
  (ordered.reverse.foldl Composing.next {}).flush.reverse

end DocSite.Url.Domain
