import DocSite.Json.Basic
import DocSite.Text.Blank

/-!
# Declarations and rules

  Property values, property names in both of their styles, and the text of a
  rule with an indentation of two spaces a level.
-/

namespace DocSite.Css

open DocSite.Text

/-! ## Values -/

/-- A property value; numbers may be written without quotes. -/
inductive Value where
  | text (value : String)
  | integer (value : Int)
  | number (value : Binary64)
  deriving DecidableEq, Repr

namespace Value

/-- Whether the value is a text of blanks only. -/
def isEmpty : Value → Bool
  | .text s => (trim s).isEmpty
  | _ => false

/-- The text in which variables may be referenced. -/
def asText? : Value → Option String
  | .text s => some s
  | _ => none

/-- The value as a declaration writes it. -/
def display : Value → String
  | .text s => s
  | .integer n => toString n
  | .number x => x.text

/-- The value as JSON. -/
def toJson : Value → Json
  | .text s => .string s
  | .integer n => .integer n
  | .number x => .number x

end Value

/-! ## Property names -/

/-- A character of a property name in lower case with hyphens. -/
def kebabChar (c : Char) : List Char := if c.isUpper then ['-', c.toLower] else [c]

/-- `boxShadow` as `box-shadow`; custom properties stay as they are. -/
def kebabCase (property : String) : String :=
  if startsWith ['-', '-'] property.toList then property
  else String.ofList (property.toList.flatMap kebabChar)

/-- Whether a text looks like a property name in either style. -/
def isPropertyName (property : String) : Bool :=
  let body := (dropStart? ['-', '-'] property.toList).getD property.toList
  match body with
  | [] => false
  | c :: _ => c.isAlpha && body.all fun c => c.isAlphanum || c == '-'

/-! ## Rules -/

/-- The indentation of a level. -/
def indent (level : Nat) : String := String.ofList (List.replicate (2 * level) ' ')

/-- One declaration on a line. -/
def declaration (level : Nat) (property value : String) : String :=
  indent (level + 1) ++ kebabCase property ++ ": " ++ value ++ ";\n"

/-- A selector with its declarations. -/
def rule (level : Nat) (selector : String) (declarations : List (String × String)) : String :=
  indent level ++ selector ++ " \x7b\n" ++
    String.join (declarations.map fun (p, v) => declaration level p v) ++
    indent level ++ "\x7d\n"

end DocSite.Css
