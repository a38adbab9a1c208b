import DocSite.Text.Split

/-!
# Instants

  A point in time as milliseconds since the start of 1970 in universal time, and
  its text with date, time and milliseconds.
-/

namespace DocSite

open DocSite.Text

/-- Milliseconds since the start of 1970, universal time. -/
structure Instant where
  millis : Int
  deriving DecidableEq, Repr

/-- A day of the calendar. -/
structure Date where
  year : Int
  month : Nat
  day : Nat
  deriving DecidableEq, Repr

namespace Date

/-- Days in four centuries. -/
def eraDays : Int := 146097

/-- The date that lies a number of days after the start of 1970. Years are counted from the first
of March, in eras of four centuries. -/
def ofDays (days : Int) : Date :=
  -- From the first of March of the year zero.
  let z := days + 719468
  let era := z.fdiv eraDays
  let d := (z - era * eraDays).toNat
  let yearOfEra := (d - d / 1460 + d / 36524 - d / 146096) / 365
  let dayOfYear := d - (365 * yearOfEra + yearOfEra / 4 - yearOfEra / 100)
  -- Five months from March on have 153 days, and so have the next five.
  let shifted := (5 * dayOfYear + 2) / 153
  let month := if shifted < 10 then shifted + 3 else shifted - 9
  { year := yearOfEra + era * 400 + (if month ≤ 2 then 1 else 0)
    month
    day := dayOfYear - (153 * shifted + 2) / 5 + 1 }

/-- A year: four digits, with a sign if it has more or is negative. -/
def yearText (year : Int) : String :=
  let digits := padZeros 4 (toString year.natAbs)
  if year < 0 then "-" ++ digits
  else if 9999 < year then "+" ++ digits
  else digits

/-- The text of a date. -/
def text (d : Date) : String :=
  yearText d.year ++ "-" ++ padZeros 2 (toString d.month) ++ "-" ++ padZeros 2 (toString d.day)

end Date

namespace Instant

/-- Milliseconds in a day. -/
def dayMillis : Int := 86400000

/-- Date and time of an instant, to the millisecond. -/
def text (t : Instant) : String :=
  let days := t.millis.fdiv dayMillis
  let ms := (t.millis - days * dayMillis).toNat
  (Date.ofDays days).text ++ "T" ++ padZeros 2 (toString (ms / 3600000)) ++ ":" ++
    padZeros 2 (toString (ms / 60000 % 60)) ++ ":" ++ padZeros 2 (toString (ms / 1000 % 60)) ++
    "." ++ padZeros 3 (toString (ms % 1000)) ++ "Z"

end Instant

end DocSite
