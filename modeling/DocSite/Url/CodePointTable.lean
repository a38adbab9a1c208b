import DocSite.Text.Split

/-!
# Tables of code points

  Properties of characters as tables. A table is written as a text, a word an entry,
  with all numbers in base sixteen.
-/

namespace DocSite.Url.Domain

open DocSite.Text

/-- An entry of a table: code points from `first` to `last` in steps, with their images from
`image` on; `reversible` tells that a decomposition may be undone. -/
structure Entry where
  first : Nat
  last : Nat
  step : Nat
  reversible : Bool
  image : List Nat

/-- A word of a table's text. -/
def Entry.ofWord (word : List Char) : Entry :=
  let (range, rest) := word.span fun c => c != '=' && c != '!'
  let (bounds, step) := (splitOnce '/' range).getD (range, ['1'])
  let (first, last) := (splitOnce '-' bounds).getD (bounds, bounds)
  let image := rest.drop 1
  { first := readDigits 16 first
    last := readDigits 16 last
    step := readDigits 16 step
    reversible := rest.head? != some '!'
    image := if image.isEmpty then [] else (splitOn ',' image).map (readDigits 16) }

/-- The entries of a table's text. -/
def entries (text : String) : List Entry :=
  let words := (splitOn '\n' text.toList).flatMap (splitOn ' ')
  (words.filter fun word => !word.isEmpty).map Entry.ofWord

/-- Whether an entry is about a code point. -/
def Entry.holds (e : Entry) (n : Nat) : Bool :=
  e.first ≤ n && n ≤ e.last && (n - e.first) % e.step == 0

/-- The image of a code point of an entry. -/
def Entry.imageOf (e : Entry) (n : Nat) : List Nat :=
  if e.first = e.last then e.image else e.image.map (· + (n - e.first))

end DocSite.Url.Domain
