import DocSite.Text.Printable
import DocSite.Text.Split

/-!
# Quoted characters and texts

  How a message shows a character or a text between quotes: control characters,
  the quote itself and characters without a form of their own are escaped, all
  else stands for itself.
-/

namespace DocSite.Text

/-- An escape by code point, as in `\\u` with braces. -/
def codeEscape (c : Char) : String := "\\u\x7b" ++ lowerHex c.toNat ++ "\x7d"

/-- A character between quotes of a kind. -/
def quotedChar (quote : Char) (c : Char) : String :=
  if c == '\u0000' then "\\0"
  else if c == '\t' then "\\t"
  else if c == '\r' then "\\r"
  else if c == '\n' then "\\n"
  else if c == '\\' then "\\\\"
  else if c == quote then "\\" ++ c.toString
  else if isExtending c || !isPrintable c then codeEscape c
  else c.toString

/-- A character between single quotes. -/
def quoteChar (c : Char) : String := "'" ++ quotedChar '\'' c ++ "'"

/-- A text between double quotes. -/
def quoteText (s : String) : String :=
  "\"" ++ String.join (s.toList.map (quotedChar '"')) ++ "\""

/-- A text between backticks, as messages name keys and values. -/
def ticked (s : String) : String := "`" ++ s ++ "`"

end DocSite.Text
