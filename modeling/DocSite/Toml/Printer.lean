import DocSite.Toml.Value
import DocSite.Text.Split

/-!
# Writing TOML documents

  The text of a table: its plain values first, then its sub-tables under headers
  of their own, each after a blank line. A table that holds nothing but
  sub-tables has no header, an array of tables has one header an item.

  A text is written in the plainest of the four string forms that can hold it.
-/

namespace DocSite.Toml

open DocSite.Text

/-! ## Strings -/

/-- The four forms of a string. -/
inductive StringForm where
  | basic
  | literal
  | multiline
  | multilineLiteral
  deriving DecidableEq, Repr

/-- Control characters that no literal string holds: all but the tab and the line feed. -/
def isControl (c : Char) : Bool :=
  (c.toNat < 0x20 && c != '\t' && c != '\n') || c.toNat == 0x7f

/-- The length of the longest run of a character; `run` counts the one that is open. -/
def longestRun (x : Char) : (run : Nat) → List Char → Nat
  | run, [] => run
  | run, c :: cs => if c == x then longestRun x (run + 1) cs else max run (longestRun x 0 cs)

/-- The plainest form that holds a text: a one-line string when nothing needs an escape, then
a literal one, then the multi-line forms, and an escaped string when all else fails. -/
def stringForm (cs : List Char) : StringForm :=
  let control := cs.any isControl
  let backslash := cs.contains '\\'
  let newline := cs.contains '\n'
  let doubles := longestRun '"' 0 cs
  let singles := longestRun '\'' 0 cs
  -- The order of the tests is the order of preference.
  if !control && !backslash && doubles == 0 && !newline then .basic
  else if !control && singles == 0 && !newline then .literal
  else if !control && !backslash && doubles ≤ 2 then .multiline
  else if !control && singles ≤ 2 then .multilineLiteral
  else if newline then .multiline
  else .basic

/-- The escape of a character that a quoted string cannot hold as it is. -/
def escapeText (c : Char) : List Char :=
  if c == '\u0008' then ['\\', 'b']
  else if c == '\t' then ['\\', 't']
  else if c == '\n' then ['\\', 'n']
  else if c == '\u000c' then ['\\', 'f']
  else if c == '\r' then ['\\', 'r']
  else if c == '"' then ['\\', '"']
  else if c == '\\' then ['\\', '\\']
  else '\\' :: 'u' :: '0' :: '0' :: [upperHexDigit (c.toNat / 16), upperHexDigit (c.toNat % 16)]

/-- The body of a quoted string: up to `spare` quotes may stand side by side unescaped, and
line feeds stay as they are in a multi-line string. `run` counts the open run of quotes. -/
def escapeBody (multiline : Bool) (spare : Nat) : (run : Nat) → List Char → List Char
  | _, [] => []
  | run, c :: cs =>
    if c == '"' then
      -- Two quotes side by side cannot end a multi-line string, a third one would.
      if run < spare then c :: escapeBody multiline spare (run + 1) cs
      else escapeText c ++ escapeBody multiline spare 0 cs
    else if c == '\n' && multiline then c :: escapeBody multiline spare 0 cs
    else if c == '\\' || c == '\t' || c == '\n' || isControl c then
      escapeText c ++ escapeBody multiline spare 0 cs
    else c :: escapeBody multiline spare 0 cs

/-- A text in a given form. A multi-line string that holds a line feed starts on a new line. -/
def writeString (form : StringForm) (cs : List Char) : String :=
  let start := if cs.contains '\n' then "\n" else ""
  match form with
  | .basic => "\"" ++ String.ofList (escapeBody false 0 0 cs) ++ "\""
  | .literal => "'" ++ String.ofList cs ++ "'"
  | .multiline => "\"\"\"" ++ start ++ String.ofList (escapeBody true 2 0 cs) ++ "\"\"\""
  | .multilineLiteral => "'''" ++ start ++ String.ofList cs ++ "'''"

/-- A text in its plainest form. -/
def stringText (s : String) : String := writeString (stringForm s.toList) s.toList

/-- A key: bare if it can be, else in the plainest one-line form. -/
def keyText (key : String) : String :=
  let cs := key.toList
  let control := cs.any fun c => isControl c || c == '\n'
  if !cs.isEmpty && cs.all isNameChar then key
  else if !control && !cs.contains '\\' && !cs.contains '"' then writeString .basic cs
  else if !control && !cs.contains '\'' then writeString .literal cs
  else writeString .basic cs

/-! ## Values -/

mutual

/-- A value on one line. -/
def Value.text : Value → String
  | .string s => stringText s
  | .integer n => toString n
  | .float x => x.tomlText
  | .boolean true => "true"
  | .boolean false => "false"
  | .datetime text => text
  | .array items => "[" ++ textItems items ++ "]"
  | .table [] => "\x7b\x7d"
  | .table entries => "\x7b " ++ textEntries entries ++ " \x7d"

/-- The items of an array on one line. -/
def textItems : List Value → String
  | [] => ""
  | [item] => item.text
  | item :: rest => item.text ++ ", " ++ textItems rest

/-- The entries of an inline table. -/
def textEntries : List (String × Value) → String
  | [] => ""
  | [(key, v)] => keyText key ++ " = " ++ v.text
  | (key, v) :: rest => keyText key ++ " = " ++ v.text ++ ", " ++ textEntries rest

end

/-! ## Documents -/

/-- Whether a value is written under headers: a table, or an array of nothing but tables. -/
def Value.isSection : Value → Bool
  | .table _ => true
  | .array items => !items.isEmpty && items.all Value.isTable
  | _ => false

/-- The lines of a table's plain values. -/
def plainLines (entries : List (String × Value)) : String :=
  String.join ((entries.filter fun (_, v) => !v.isSection).map fun (key, v) =>
    keyText key ++ " = " ++ v.text ++ "\n")

/-- A path of keys as headers write it. -/
def headerPath (path : List String) : String := joinText "." (path.map keyText)

/-- Whether a table has a header: it is empty, or holds a plain value. -/
def hasHeader (entries : List (String × Value)) : Bool :=
  entries.isEmpty || entries.any fun (_, v) => !v.isSection

mutual

/-- The sub-tables of a table at a path. -/
def sections (path : List String) : List (String × Value) → String
  | [] => ""
  | (key, v) :: rest => section? (path ++ [key]) v ++ sections path rest

/-- The lines that a value contributes under headers; none if it is a plain one. -/
def section? (path : List String) : Value → String
  | .table entries =>
    (if hasHeader entries then "\n[" ++ headerPath path ++ "]\n" else "") ++
      plainLines entries ++ sections path entries
  | .array items =>
    if (Value.array items).isSection then arraySections path items else ""
  | _ => ""

/-- The items of an array of tables, each under a header. -/
def arraySections (path : List String) : List Value → String
  | [] => ""
  | .table entries :: rest =>
    "\n[[" ++ headerPath path ++ "]]\n" ++ plainLines entries ++ sections path entries ++
      arraySections path rest
  | _ :: rest => arraySections path rest

end

/-- The text of a document. -/
def render (entries : List (String × Value)) : String :=
  let text := plainLines entries ++ sections [] entries
  match text.toList with
  | '\n' :: rest => String.ofList rest
  | _ => text

end DocSite.Toml
