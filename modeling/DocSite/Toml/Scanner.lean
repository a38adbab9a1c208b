import DocSite.Toml.Value
import DocSite.Text.Split

/-!
# TOML tokens

  The lexical part of TOML 1.0: blanks and comments, keys, the four forms of
  strings, numbers, booleans and date-times. Each reader takes the remaining
  characters and returns what it read with the characters after it.
-/

namespace DocSite.Toml.Scanner

open DocSite.Text

/-! ## Blanks, comments and line ends -/

/-- A blank within a line. -/
def isSpace (c : Char) : Bool := c == ' ' || c == '\t'

/-- Skips the blanks of a line. -/
def skipSpaces (cs : List Char) : List Char := cs.dropWhile isSpace

/-- A character that strings and comments may hold as it is: no control character but the tab. -/
def isPlain (c : Char) : Bool := c == '\t' || (0x20 ≤ c.toNat && c.toNat != 0x7f)

/-- Takes a line break off. -/
def newline? : List Char → Option (List Char)
  | '\n' :: rest => some rest
  | '\r' :: '\n' :: rest => some rest
  | _ => none

/-- Skips blanks, comments and line breaks; `inComment` tells that a comment is open. -/
def skipTrivia (inComment : Bool) : List Char → List Char
  | [] => []
  | '\r' :: '\n' :: rest => skipTrivia false rest
  | c :: rest =>
    if c == '\n' then skipTrivia false rest
    else if inComment then
      -- A control character cannot be part of a comment, and no line starts with one.
      if isPlain c then skipTrivia true rest else c :: rest
    else if isSpace c then skipTrivia false rest
    else if c == '#' then skipTrivia true rest
    else c :: rest

/-- The end of a line: blanks, perhaps a comment, then a line break or the end of the text. -/
def lineEnd? (cs : List Char) : Option (List Char) :=
  let rest := skipSpaces cs
  let rest :=
    match rest with
    | '#' :: comment => comment.dropWhile isPlain
    | rest => rest
  if rest.isEmpty then some [] else newline? rest

/-! ## Strings -/

/-- The character of a code point, unless it is a surrogate or too large. -/
def scalar? (n : Nat) : Option Char := if h : n.isValidChar then some (Char.ofNatAux n h) else none

/-- An escape of so many hexadecimal digits. -/
def hexEscape? (count : Nat) (cs : List Char) : Option (Char × List Char) :=
  let digits := cs.take count
  if digits.length = count && digits.all isHexDigit then
    (scalar? (readDigits 16 digits)).map fun c => (c, cs.drop count)
  else none

/-- The character that a backslash introduces. -/
def escape? : List Char → Option (Char × List Char)
  | 'b' :: rest => some ('\u0008', rest)
  | 't' :: rest => some ('\t', rest)
  | 'n' :: rest => some ('\n', rest)
  | 'f' :: rest => some ('\u000c', rest)
  | 'r' :: rest => some ('\r', rest)
  | '"' :: rest => some ('"', rest)
  | '\\' :: rest => some ('\\', rest)
  | 'u' :: rest => hexEscape? 4 rest
  | 'U' :: rest => hexEscape? 8 rest
  | _ => none

/-- The body of a one-line string; `done` holds what was read, reversed. -/
def basicBody? : (room : Nat) → (done cs : List Char) → Option (List Char × List Char)
  | 0, _, _ => none
  | _ + 1, _, [] => none
  | room + 1, done, c :: cs =>
    if c == '"' then some (done.reverse, cs)
    else if c == '\\' then
      match escape? cs with
      | some (e, rest) => basicBody? room (e :: done) rest
      | none => none
    else if isPlain c then basicBody? room (c :: done) cs
    else none

/-- The body of a one-line literal string. -/
def literalBody? : List Char → Option (List Char × List Char)
  | [] => none
  | c :: cs =>
    if c == '\'' then some ([], cs)
    else if isPlain c then (literalBody? cs).map fun (body, rest) => (c :: body, rest)
    else none

/-- The end of a multi-line string: three quotes, up to two more before them belonging to the
string. -/
def closing? (quote : Char) (cs : List Char) : Option (List Char × List Char) :=
  let run := (cs.takeWhile (· == quote)).length
  if 3 ≤ run then
    -- Five quotes are two of the string and the three that end it; a sixth one is a fault outside.
    let extra := min (run - 3) 2
    some (List.replicate extra quote, cs.drop (extra + 3))
  else none

/-- Skips blanks and line breaks. -/
def skipBreaks : List Char → List Char
  | [] => []
  | '\r' :: '\n' :: rest => skipBreaks rest
  | c :: rest => if isSpace c || c == '\n' then skipBreaks rest else c :: rest

/-- A line break that a backslash removes, with all blanks and line breaks after it. -/
def continuation? (cs : List Char) : Option (List Char) :=
  (newline? (skipSpaces cs)).map skipBreaks

/-- The body of a multi-line string; line breaks are read as line feeds. -/
def multilineBody? : (room : Nat) → (done cs : List Char) → Option (List Char × List Char)
  | 0, _, _ => none
  | _ + 1, _, [] => none
  | room + 1, done, c :: cs =>
    match closing? '"' (c :: cs) with
    | some (extra, rest) => some (done.reverse ++ extra, rest)
    | none =>
      match newline? (c :: cs) with
      | some rest => multilineBody? room ('\n' :: done) rest
      | none =>
        -- A backslash at the end of a line joins it with the next one that is not blank.
        if c == '\\' then
          match continuation? cs with
          | some rest => multilineBody? room done rest
          | none =>
            match escape? cs with
            | some (e, rest) => multilineBody? room (e :: done) rest
            | none => none
        else if isPlain c then multilineBody? room (c :: done) cs
        else none

/-- The body of a multi-line literal string; line breaks are read as line feeds. -/
def multilineLiteralBody? : (room : Nat) → (done cs : List Char) → Option (List Char × List Char)
  | 0, _, _ => none
  | _ + 1, _, [] => none
  | room + 1, done, c :: cs =>
    match closing? '\'' (c :: cs) with
    | some (extra, rest) => some (done.reverse ++ extra, rest)
    | none =>
      match newline? (c :: cs) with
      | some rest => multilineLiteralBody? room ('\n' :: done) rest
      | none => if isPlain c then multilineLiteralBody? room (c :: done) cs else none

/-- Drops the line break right after the opening quotes of a multi-line string. -/
def dropNewline (cs : List Char) : List Char := (newline? cs).getD cs

/-- A string in any of its four forms. -/
def string? : List Char → Option (String × List Char)
  | '"' :: '"' :: '"' :: rest =>
    let body := dropNewline rest
    (multilineBody? (body.length + 1) [] body).map fun (s, r) => (String.ofList s, r)
  | '\'' :: '\'' :: '\'' :: rest =>
    let body := dropNewline rest
    (multilineLiteralBody? (body.length + 1) [] body).map fun (s, r) => (String.ofList s, r)
  | '"' :: rest => (basicBody? (rest.length + 1) [] rest).map fun (s, r) => (String.ofList s, r)
  | '\'' :: rest => (literalBody? rest).map fun (s, r) => (String.ofList s, r)
  | _ => none

/-! ## Keys -/

/-- One part of a key: bare, or a one-line string. -/
def keyPart? : List Char → Option (String × List Char)
  | '"' :: rest => (basicBody? (rest.length + 1) [] rest).map fun (s, r) => (String.ofList s, r)
  | '\'' :: rest => (literalBody? rest).map fun (s, r) => (String.ofList s, r)
  | cs =>
    let (bare, rest) := cs.span isNameChar
    if bare.isEmpty then none else some (String.ofList bare, rest)

/-- The parts of a dotted key, with blanks around each of them. -/
def keyParts? : (room : Nat) → List Char → Option (List String × List Char)
  | 0, _ => none
  | room + 1, cs => do
    let (part, rest) ← keyPart? (skipSpaces cs)
    match skipSpaces rest with
    | '.' :: rest =>
      let (parts, rest) ← keyParts? room rest
      some (part :: parts, rest)
    | rest => some ([part], rest)

/-- The greatest number of parts of a key, and of containers around a value. -/
def nestingLimit : Nat := 79

/-- A dotted key. -/
def key? (cs : List Char) : Option (List String × List Char) := do
  let (parts, rest) ← keyParts? (cs.length + 1) cs
  if nestingLimit < parts.length then none else some (parts, rest)

/-! ## Numbers -/

/-- Drops the underscores of a digit sequence, each of which stands between two digits. -/
def digits? (isDigit : Char → Bool) : List Char → Option (List Char)
  | [] => none
  | [c] => if isDigit c then some [c] else none
  | c :: '_' :: rest => if isDigit c then (digits? isDigit rest).map (c :: ·) else none
  | c :: rest => if isDigit c then (digits? isDigit rest).map (c :: ·) else none

/-- The digits of a decimal integer: no zero before another digit. -/
def wholeDigits? (cs : List Char) : Option (List Char) := do
  let ds ← digits? Char.isDigit cs
  match ds with
  -- A zero stands alone.
  | '0' :: _ :: _ => none
  | ds => some ds

/-- An integer that fits 64 bits. -/
def ranged? (n : Int) : Option Value :=
  if -0x8000000000000000 ≤ n && n < 0x8000000000000000 then some (.integer n) else none

/-- An integer: decimal with an optional sign, or with the mark of another base. -/
def integer? : List Char → Option Value
  | '0' :: 'x' :: rest => do ranged? (readDigits 16 (← digits? isHexDigit rest))
  | '0' :: 'o' :: rest => do ranged? (readDigits 8 (← digits? (fun c => '0' ≤ c && c ≤ '7') rest))
  | '0' :: 'b' :: rest => do ranged? (readDigits 2 (← digits? (fun c => c == '0' || c == '1') rest))
  | cs => do
    let (negative, body) := Numeral.takeSign cs
    let n : Nat := Numeral.natOfDigits (← wholeDigits? body)
    ranged? (if negative then -(n : Int) else n)

/-- The exponent of a float. -/
def exponentPart? : List Char → Option (List Char)
  | [] => some []
  | c :: rest =>
    if c == 'e' || c == 'E' then do
      let (negative, body) := Numeral.takeSign rest
      let ds ← digits? Char.isDigit body
      some ('e' :: if negative then '-' :: ds else ds)
    else none

/-- The fraction and exponent of a float; one of them at least. -/
def floatTail? : List Char → Option (List Char)
  | '.' :: rest => do
    let (fraction, rest) := rest.span fun c => c.isDigit || c == '_'
    let ds ← digits? Char.isDigit fraction
    let e ← exponentPart? rest
    some ('.' :: ds ++ e)
  | [] => none
  | cs => exponentPart? cs

/-- A float. A text too large for a double is refused, unless it is negative. -/
def float? (cs : List Char) : Option Value := do
  let (negative, body) := Numeral.takeSign cs
  if body = "inf".toList then some (.float (.infinite negative))
  else if body = "nan".toList then some (.float .nan)
  else
    let (whole, rest) := body.span fun c => c.isDigit || c == '_'
    let ds ← wholeDigits? whole
    let tail ← floatTail? rest
    let x ← Binary64.parse? ((if negative then ['-'] else []) ++ ds ++ tail)
    -- Only `inf` itself is infinite on the positive side.
    if x = .infinite false then none else some (.float x)

/-! ## Date-times -/

/-- So many decimal digits with a value in a range. -/
def field? (count low high : Nat) (cs : List Char) : Option (Nat × List Char) :=
  let digits := cs.take count
  let n := Numeral.natOfDigits digits
  if digits.length = count && digits.all Char.isDigit && low ≤ n && n ≤ high then
    some (n, cs.drop count)
  else none

/-- A given character. -/
def mark? (c : Char) : List Char → Option (List Char)
  | [] => none
  | x :: rest => if x == c then some rest else none

/-- Whether a year has 366 days. -/
def isLeap (year : Nat) : Bool := (year % 4 == 0 && year % 100 != 0) || year % 400 == 0

/-- The number of days of a month. -/
def daysIn (year month : Nat) : Nat :=
  if month == 2 then (if isLeap year then 29 else 28)
  else if [4, 6, 9, 11].contains month then 30 else 31

/-- A number with at least so many digits. -/
def padded (width n : Nat) : String := padZeros width (toString n)

/-- A calendar date, and its text. -/
def date? (cs : List Char) : Option (String × List Char) := do
  let (year, rest) ← field? 4 0 9999 cs
  let (month, rest) ← field? 2 1 12 (← mark? '-' rest)
  let (day, rest) ← field? 2 1 31 (← mark? '-' rest)
  if daysIn year month < day then none
  else some (padded 4 year ++ "-" ++ padded 2 month ++ "-" ++ padded 2 day, rest)

/-- The fraction of a second: nine digits count, and zeros at the end are not written. -/
def fractionText (digits : List Char) : String :=
  let kept := ((digits.take 9).reverse.dropWhile (· == '0')).reverse
  if kept.isEmpty then "" else "." ++ String.ofList kept

/-- A time of day, and its text. -/
def time? (cs : List Char) : Option (String × List Char) := do
  let (hour, rest) ← field? 2 0 23 cs
  let (minute, rest) ← field? 2 0 59 (← mark? ':' rest)
  let (second, rest) ← field? 2 0 60 (← mark? ':' rest)
  let text := padded 2 hour ++ ":" ++ padded 2 minute ++ ":" ++ padded 2 second
  match rest with
  | '.' :: rest =>
    let (fraction, rest) := rest.span Char.isDigit
    if fraction.isEmpty then none else some (text ++ fractionText fraction, rest)
  | rest => some (text, rest)

/-- An offset from universal time, and its text; no offset gives the empty text. -/
def offset? : List Char → Option String
  | [] => some ""
  | ['Z'] => some "Z"
  | ['z'] => some "Z"
  | c :: rest =>
    if c == '+' || c == '-' then do
      let (hours, rest) ← field? 2 0 23 rest
      let (minutes, rest) ← field? 2 0 59 (← mark? ':' rest)
      if !rest.isEmpty then none
      else
        -- No offset at all is written with a plus.
        let sign := if c == '-' && (hours != 0 || minutes != 0) then "-" else "+"
        some (sign ++ padded 2 hours ++ ":" ++ padded 2 minutes)
    else none

/-- A date, a time, or a date with a time and perhaps an offset. -/
def datetime? (cs : List Char) : Option Value :=
  match date? cs with
  | some (date, []) => some (.datetime date)
  | some (date, c :: rest) =>
    if c == 'T' || c == 't' || c == ' ' then do
      let (time, rest) ← time? rest
      let offset ← offset? rest
      some (.datetime (date ++ "T" ++ time ++ offset))
    else none
  | none =>
    match time? cs with
    | some (time, []) => some (.datetime time)
    | _ => none

/-- The characters of numbers, booleans and date-times. -/
def isWordChar (c : Char) : Bool :=
  c.isAlphanum || c == '_' || c == '+' || c == '-' || c == '.' || c == ':'

/-- The word at the front; a blank between a date and a time is part of it. -/
def word (cs : List Char) : List Char × List Char :=
  let (w, rest) := cs.span isWordChar
  match date? w, rest with
  | some (_, []), ' ' :: a :: b :: ':' :: _ =>
    -- Two digits and a colon behind the blank begin a time.
    if a.isDigit && b.isDigit then
      let (time, rest) := (rest.drop 1).span isWordChar
      (w ++ ' ' :: time, rest)
    else (w, rest)
  | _, _ => (w, rest)

/-- A number, boolean or date-time. -/
def scalarWord? (w : List Char) : Option Value :=
  if w = "true".toList then some (.boolean true)
  else if w = "false".toList then some (.boolean false)
  else (datetime? w).orElse fun _ => (float? w).orElse fun _ => integer? w

end DocSite.Toml.Scanner
