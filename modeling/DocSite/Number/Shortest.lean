import DocSite.Number.Binary64

/-!
# Shortest decimals

  The text of a double has the fewest digits that read back as the same value,
  and of those the digits nearest to it. The search is exact: it walks the grids
  of one, two, up to seventeen digits and takes the first that has a point in the
  interval of reals rounding to the value.

  The three layouts of the output (plain text, JSON, TOML) differ in where they put
  the point, and in which of two equally near digits they end with.
-/

namespace DocSite

namespace Shortest

/-! ## Digits -/

/-- The least `j`, counted from `start`, with `d ≤ n · 10 ^ j`; `room` bounds the search. -/
def leadingZeros (d : Nat) : (room : Nat) → (n start : Nat) → Nat
  | 0, _, start => start
  | room + 1, n, start => if d ≤ n then start else leadingZeros d room (n * 10) (start + 1)

/-- The greatest `k` with `10 ^ k ≤ n / d`, for positive `n` and `d`. -/
def log10Ratio (n d : Nat) : Int :=
  if d ≤ n then ((Nat.toDigits 10 (n / d)).length : Int) - 1
  else -(leadingZeros d 400 n 0 : Int)

/-- An interval of reals around a value, in units of `1 / unit`. -/
structure Interval where
  low : Nat
  value : Nat
  high : Nat
  unit : Nat
  closed : Bool

/-- The reals that round to `m · 2 ^ e`, in quarters of the last place: half a place on both
sides, but a quarter below a power of two. The ends belong to it when `m` is even. -/
def intervalOf (m : Nat) (e : Int) : Interval :=
  -- Below a power of two the values lie twice as close.
  let below := if m = Binary64.leastNormal && Binary64.minExponent < e then 1 else 2
  let e := e - 2
  let scale := if 0 ≤ e then Nat.pow 2 e.toNat else 1
  { low := (4 * m - below) * scale
    value := 4 * m * scale
    high := (4 * m + 2) * scale
    unit := if 0 ≤ e then 1 else Nat.pow 2 (-e).toNat
    closed := m % 2 == 0 }

/-- Which of two equally near neighbours on a grid counts. -/
inductive Tie where
  | even
  | up
  deriving DecidableEq, Repr

/-- Whether a tie goes to the lower neighbour, which is the `c`-th point of the grid. -/
def Tie.goesDown : Tie → (c : Nat) → Bool
  | .even, c => c % 2 == 0
  | .up, _ => false

/-- The point of the grid of multiples of `10 ^ p` that the interval offers: of the two
neighbours of its value the one inside, the nearer one if both are. -/
def gridPoint? (tie : Tie) (i : Interval) (p : Int) : Option Nat :=
  let grid := if 0 ≤ p then Nat.pow 10 p.toNat * i.unit else i.unit
  let fine := if 0 ≤ p then 1 else Nat.pow 10 (-p).toNat
  let (low, value, high) := (i.low * fine, i.value * fine, i.high * fine)
  let c := value / grid
  let above := (c + 1) * grid
  let below := c * grid
  let belowIn := if i.closed then low ≤ below else low < below
  let aboveIn := if i.closed then above ≤ high else above < high
  if belowIn && aboveIn then
    -- Both neighbours read back: the nearer one counts.
    let (toBelow, toAbove) := (value - below, above - value)
    some (if toBelow < toAbove || (toBelow == toAbove && tie.goesDown c) then c else c + 1)
  else if belowIn then some c
  else if aboveIn then some (c + 1)
  else none

/-- The first grid with a point, from the one of multiples of `10 ^ p` downwards. -/
def search (tie : Tie) (i : Interval) : (room : Nat) → (p : Int) → Nat × Int
  | 0, p => ((gridPoint? tie i p).getD 0, p)
  | room + 1, p =>
    match gridPoint? tie i p with
    | some c => (c, p)
    | none => search tie i room (p - 1)

/-- Takes trailing zeros off a digit sequence; `room` bounds their number. -/
def dropZeros : (room : Nat) → Nat × Int → Nat × Int
  | 0, dp => dp
  | room + 1, (d, p) => if d % 10 == 0 && d != 0 then dropZeros room (d / 10, p + 1) else (d, p)

/-- The shortest digits `d` and power `p` with `d · 10 ^ p` reading back as `m · 2 ^ e`. -/
def digitsOf (tie : Tie) (m : Nat) (e : Int) : Nat × Int :=
  let i := intervalOf m e
  dropZeros 20 (search tie i 20 (log10Ratio i.value i.unit))

/-! ## Layouts -/

/-- A run of zeros. -/
def zeros (n : Nat) : String := String.ofList (List.replicate n '0')

/-- Positional notation of `d · 10 ^ p`, without a point when `p` is not negative. -/
def positional (d : Nat) (p : Int) : String :=
  let digits := Nat.toDigits 10 d
  let whole : Int := digits.length + p
  if 0 ≤ p then String.ofList digits ++ zeros p.toNat
  else if 0 < whole then
    String.ofList (digits.take whole.toNat) ++ "." ++ String.ofList (digits.drop whole.toNat)
  else "0." ++ zeros (-whole).toNat ++ String.ofList digits

/-- Scientific notation: one digit before the point, a signed exponent. -/
def scientific (d : Nat) (p : Int) : String :=
  let digits := Nat.toDigits 10 d
  let e : Int := digits.length + p - 1
  let tail := if digits.length ≤ 1 then "" else "." ++ String.ofList (digits.drop 1)
  String.ofList (digits.take 1) ++ tail ++ (if e < 0 then "e-" else "e+") ++
    toString e.natAbs

/-- A minus for negative values. -/
def signText (negative : Bool) : String := if negative then "-" else ""

end Shortest

namespace Binary64

open Shortest

/-- Plain text: never an exponent, no point for integers, and a tie goes up. -/
def text : Binary64 → String
  | .nan => "NaN"
  | .infinite s => signText s ++ "inf"
  | .finite s m e =>
    if m = 0 then signText s ++ "0"
    else
      let (d, p) := digitsOf .up m e
      signText s ++ positional d p

/-- TOML text: plain, with `.0` for integers. -/
def tomlText : Binary64 → String
  | .nan => "nan"
  | .infinite s => signText s ++ "inf"
  | x => if x.isInteger then x.text ++ ".0" else x.text

/-- JSON text: positional from `1e-5` up to `1e16` and with a point, else scientific; a tie goes
to the even digit. What is not a number has none. -/
def jsonText? : Binary64 → Option String
  | .nan => none
  | .infinite _ => none
  | .finite s m e =>
    if m = 0 then some (signText s ++ "0.0")
    else
      let (d, p) := digitsOf .even m e
      let top : Int := (Nat.toDigits 10 d).length + p - 1
      let body :=
        if -5 ≤ top && top < 16 then
          positional d p ++ (if 0 ≤ p then ".0" else "")
        else scientific d p
      some (signText s ++ body)

end Binary64

end DocSite
