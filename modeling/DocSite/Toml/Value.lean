import DocSite.Number.Shortest
import DocSite.Table

/-!
# TOML values

  What a TOML document means: a table of named values whose order is that of the
  document. Date-times are kept as their normalized text.
-/

namespace DocSite.Toml

/-- A TOML value; tables keep the order of their keys. -/
inductive Value where
  | string (value : String)
  | integer (value : Int)
  | float (value : Binary64)
  | boolean (value : Bool)
  | datetime (text : String)
  | array (items : List Value)
  | table (entries : List (String × Value))
  deriving Inhabited

namespace Value

/-- An array of texts. -/
def strings (items : List String) : Value := .array (items.map .string)

/-- Whether the value is a table. -/
def isTable : Value → Bool
  | .table _ => true
  | _ => false

end Value

end DocSite.Toml
