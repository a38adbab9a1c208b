import DocSite.Ansi
import DocSite.Text.Quoted

/-!
# Key paths

  The place of a value in a record, as diagnostics name it: keys joined by dots,
  list indices in brackets. A key that is not bare stands between quotes.
-/

namespace DocSite

/-- The place of a value in a record. -/
structure FieldPath where
  text : String
  deriving DecidableEq, Repr

namespace FieldPath

/-- Whether a key needs no quotes. -/
def isBareKey (key : String) : Bool := !key.isEmpty && key.toList.all Text.isNameChar

/-- A key as a path writes it. -/
def keyText (key : String) : String := if isBareKey key then key else "\"" ++ key ++ "\""

/-- The path of a key below a path. -/
def key (path : FieldPath) (name : String) : FieldPath :=
  if path.text.isEmpty then ⟨keyText name⟩ else ⟨path.text ++ "." ++ keyText name⟩

/-- The path of a list item below a path. -/
def index (path : FieldPath) (i : Nat) : FieldPath := ⟨path.text ++ "[" ++ toString i ++ "]"⟩

/-- The path on a terminal. -/
def display (path : FieldPath) : String := Ansi.paint .brightBlue (Text.ticked path.text)

end FieldPath

end DocSite
