import DocSite.Json.Basic

/-!
# Reading JSON

  A reader over `List Char` that keeps the order of object members. The depth of
  nesting and the number of items are bounded by the length of the input, so the
  recursion is structural; a document never exceeds the bound.
-/

namespace DocSite.Json

namespace Reader

/-! ## Tokens -/

/-- JSON's four blanks. -/
def isSpace (c : Char) : Bool := c == ' ' || c == '\t' || c == '\n' || c == '\r'

/-- Skips blanks. -/
def skip (cs : List Char) : List Char := cs.dropWhile isSpace

/-- Four hexadecimal digits. -/
def hex4? : List Char → Option (Nat × List Char)
  | a :: b :: c :: d :: rest =>
    if [a, b, c, d].all Text.isHexDigit then some (Text.readDigits 16 [a, b, c, d], rest) else none
  | _ => none

/-- The character of a `\u` escape; a pair of surrogates makes one character. -/
def unicode? (cs : List Char) : Option (Char × List Char) := do
  let (high, rest) ← hex4? cs
  if 0xd800 ≤ high && high < 0xdc00 then
    match rest with
    | '\\' :: 'u' :: rest =>
      let (low, rest) ← hex4? rest
      if 0xdc00 ≤ low && low < 0xe000 then
        some (Char.ofNat (0x10000 + (high - 0xd800) * 0x400 + (low - 0xdc00)), rest)
      else none
    | _ => none
  else if 0xdc00 ≤ high && high < 0xe000 then none
  else some (Char.ofNat high, rest)

/-- The character that a backslash introduces. -/
def escape? : List Char → Option (Char × List Char)
  | '"' :: rest => some ('"', rest)
  | '\\' :: rest => some ('\\', rest)
  | '/' :: rest => some ('/', rest)
  | 'b' :: rest => some ('\u0008', rest)
  | 'f' :: rest => some ('\u000c', rest)
  | 'n' :: rest => some ('\n', rest)
  | 'r' :: rest => some ('\r', rest)
  | 't' :: rest => some ('\t', rest)
  | 'u' :: rest => unicode? rest
  | _ => none

/-- The rest of a quoted text, up to its closing quote; `done` holds what was read, reversed. -/
def stringBody? : (room : Nat) → (done cs : List Char) → Option (String × List Char)
  | 0, _, _ => none
  | _ + 1, _, [] => none
  | room + 1, done, c :: cs =>
    if c == '"' then some (String.ofList done.reverse, cs)
    else if c == '\\' then
      match escape? cs with
      | some (e, rest) => stringBody? room (e :: done) rest
      | none => none
    else if c.toNat < 0x20 then none
    else stringBody? room (c :: done) cs

/-- The characters numbers are made of. -/
def isNumberChar (c : Char) : Bool :=
  c.isDigit || c == '-' || c == '+' || c == '.' || c == 'e' || c == 'E'

/-- A number: an integer when it is written as one and fits 64 bits, else a double. -/
def number? (cs : List Char) : Option (Json × List Char) :=
  let (text, rest) := cs.span isNumberChar
  let (negative, digits) := Numeral.takeSign text
  if !digits.isEmpty && digits.all Char.isDigit then
    let n : Int := if negative then -(Numeral.natOfDigits digits : Int)
      else Numeral.natOfDigits digits
    if (negative && n == 0) || n < -0x8000000000000000 || 0x10000000000000000 ≤ n then
      (Binary64.parse? text).map fun x => (.number x, rest)
    else some (.integer n, rest)
  else (Binary64.parse? text).map fun x => (.number x, rest)

/-! ## Values -/

/-- The items of an array after its bracket; `item` reads one. -/
def items? (item : List Char → Option (Json × List Char)) :
    (room : Nat) → List Char → Option (List Json × List Char)
  | 0, _ => none
  | room + 1, cs => do
    let (value, rest) ← item (skip cs)
    match skip rest with
    | ',' :: rest =>
      let (values, rest) ← items? item room rest
      some (value :: values, rest)
    | ']' :: rest => some ([value], rest)
    | _ => none

/-- The members of an object after its brace; `item` reads a value. -/
def members? (item : List Char → Option (Json × List Char)) :
    (room : Nat) → List Char → Option (List (String × Json) × List Char)
  | 0, _ => none
  | room + 1, cs =>
    match skip cs with
    | '"' :: rest => do
      let (key, rest) ← stringBody? (rest.length + 1) [] rest
      match skip rest with
      | ':' :: rest =>
        let (value, rest) ← item (skip rest)
        match skip rest with
        | ',' :: rest =>
          let (members, rest) ← members? item room rest
          some ((key, value) :: members, rest)
        | '\x7d' :: rest => some ([(key, value)], rest)
        | _ => none
      | _ => none
    | _ => none

/-- A value nested at most `depth` deep. -/
def value? : (depth : Nat) → List Char → Option (Json × List Char)
  | 0, _ => none
  | depth + 1, cs =>
    match cs with
    | '[' :: rest =>
      match skip rest with
      | ']' :: rest => some (.array [], rest)
      | rest => (items? (value? depth) (rest.length + 1) rest).map fun (xs, r) => (.array xs, r)
    | '\x7b' :: rest =>
      match skip rest with
      | '\x7d' :: rest => some (.object [], rest)
      | rest =>
        (members? (value? depth) (rest.length + 1) rest).map fun (ms, r) => (.object ms, r)
    | '"' :: rest =>
      (stringBody? (rest.length + 1) [] rest).map fun (s, r) => (.string s, r)
    | 't' :: 'r' :: 'u' :: 'e' :: rest => some (.bool true, rest)
    | 'f' :: 'a' :: 'l' :: 's' :: 'e' :: rest => some (.bool false, rest)
    | 'n' :: 'u' :: 'l' :: 'l' :: rest => some (.null, rest)
    | cs => number? cs

end Reader

/-- Reads a JSON document. -/
def parse? (s : String) : Option Json :=
  match Reader.value? (s.length + 1) (Reader.skip s.toList) with
  | some (value, rest) => if (Reader.skip rest).isEmpty then some value else none
  | none => none

end DocSite.Json
