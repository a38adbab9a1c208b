import DocSite.Number.Decimal

/-!
# Punycode

  The encoding of international host names in ASCII: the ASCII characters of a
  label first, then the others as differences in a base of thirty-six digits
  whose weights adapt to the label.
-/

namespace DocSite.Url.Punycode

/-! ## Digits and weights -/

/-- The digit of a number below thirty-six: `a` to `z`, then `0` to `9`. -/
def digit (n : Nat) : Char :=
  if n < 26 then Char.ofNat ('a'.toNat + n) else Char.ofNat ('0'.toNat + (n - 26))

/-- The value of a digit, in either case. -/
def value? (c : Char) : Option Nat :=
  if 'a' ≤ c && c ≤ 'z' then some (c.toNat - 'a'.toNat)
  else if 'A' ≤ c && c ≤ 'Z' then some (c.toNat - 'A'.toNat)
  else if c.isDigit then some (c.toNat - '0'.toNat + 26)
  else none

/-- The weight limit of the digit at place `k`, between 1 and 26. -/
def limit (bias k : Nat) : Nat := if k ≤ bias then 1 else if bias + 26 ≤ k then 26 else k - bias

theorem one_le_limit (bias k : Nat) : 1 ≤ limit bias k := by
  unfold limit; split <;> (try split) <;> omega

theorem limit_le (bias k : Nat) : limit bias k ≤ 26 := by
  unfold limit; split <;> (try split) <;> omega

/-- Scales a difference down; each step adds a base to the bias. -/
def shrink (delta k : Nat) : Nat :=
  if h : 455 < delta then shrink (delta / 35) (k + 36) else k + 36 * delta / (delta + 38)
termination_by delta
decreasing_by omega

/-- The bias for the difference after this one. -/
def adapt (delta count : Nat) (first : Bool) : Nat :=
  let delta := if first then delta / 700 else delta / 2
  shrink (delta + delta / count) 0

/-! ## Encoding -/

/-- A difference in digits. -/
def digitsOf (bias k q : Nat) : List Char :=
  let t := limit bias k
  if q < t then [digit q]
  else digit (t + (q - t) % (36 - t)) :: digitsOf bias (k + 36) ((q - t) / (36 - t))
termination_by q
decreasing_by
  have h1 := one_le_limit bias k
  have h2 := Nat.div_le_self (q - limit bias k) (36 - limit bias k)
  omega

/-- What an encoder knows between two characters. -/
structure State where
  delta : Nat
  bias : Nat
  handled : Nat
  output : List Char

/-- Passes one character of the label while code point `n` is being inserted. -/
def pass (basic n : Nat) (s : State) (c : Char) : State :=
  if c.toNat < n then { s with delta := s.delta + 1 }
  else if c.toNat = n then
    { delta := 0
      bias := adapt s.delta (s.handled + 1) (s.handled == basic)
      handled := s.handled + 1
      output := s.output ++ digitsOf s.bias 36 s.delta }
  else s

/-- Inserts the code points of a sorted list; `n` is the least one not yet considered. -/
def insertAll (label : List Char) (basic : Nat) : List Nat → (n : Nat) → State → State
  | [], _, s => s
  | m :: rest, n, s =>
    let s := { s with delta := s.delta + (m - n) * (s.handled + 1) }
    let s := label.foldl (pass basic m) s
    insertAll label basic rest (m + 1) { s with delta := s.delta + 1 }

/-- Adds a number to a sorted list without repetitions. -/
def insertSorted (n : Nat) : List Nat → List Nat
  | [] => [n]
  | m :: rest =>
    if n < m then n :: m :: rest
    else if n = m then m :: rest
    else m :: insertSorted n rest

/-- The encoding of a label. -/
def encode (label : List Char) : List Char :=
  let basic := label.filter (·.toNat < 0x80)
  let others := ((label.filter (0x80 ≤ ·.toNat)).map Char.toNat).foldr insertSorted []
  let start : State := ⟨0, 72, basic.length, []⟩
  let extended := (insertAll label basic.length others 0x80 start).output
  if basic.isEmpty then extended else basic ++ '-' :: extended

/-! ## Decoding -/

/-- Reads a difference: its value added to `i`, with the digits after it. -/
def readDelta? (bias : Nat) : (k weight i : Nat) → List Char → Option (Nat × List Char)
  | _, _, _, [] => none
  | k, weight, i, c :: rest => do
    let d ← value? c
    let i := i + d * weight
    let t := limit bias k
    if d < t then some (i, rest) else readDelta? bias (k + 36) (weight * (36 - t)) i rest

/-- Inserts an item into a list at an index. -/
def insertAt (c : Char) : Nat → List Char → List Char
  | 0, cs => c :: cs
  | _ + 1, [] => [c]
  | i + 1, x :: cs => x :: insertAt c i cs

/-- Inserts the characters that the digits describe; `room` bounds their number. -/
def decodeDeltas? : (room : Nat) → (n i bias : Nat) → (done digits : List Char) →
    Option (List Char)
  | 0, _, _, _, _, _ => none
  | _ + 1, _, _, _, done, [] => some done
  | room + 1, n, i, bias, done, digits => do
    let (j, rest) ← readDelta? bias 36 1 i digits
    let count := done.length + 1
    let n := n + j / count
    let place := j % count
    -- A surrogate or a number beyond the last character stands for nothing.
    if n.isValidChar then
      decodeDeltas? room n (place + 1) (adapt (j - i) count (i == 0))
        (insertAt (Char.ofNat n) place done) rest
    else none

/-- The label that an encoding stands for. The last delimiter ends the ASCII characters, unless
there are none: then it stands among the digits, and is none of them. -/
def decode? (cs : List Char) : Option (List Char) :=
  let tail := (cs.reverse.takeWhile (· != '-')).reverse
  let head := cs.take (cs.length - tail.length - 1)
  if !head.all (·.toNat < 0x80) then none
  else if head.isEmpty then decodeDeltas? (cs.length + 1) 0x80 0 72 [] cs
  else decodeDeltas? (cs.length + 1) 0x80 0 72 head tail

end DocSite.Url.Punycode
