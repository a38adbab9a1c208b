import DocSite.Diagnostics
import DocSite.Json.Basic
import DocSite.Table
import DocSite.Text.Blank

/-!
# Font stacks

  The fonts of a role in the order in which they are tried. In a stylesheet the
  names of a stack are separated by commas, and a name that is more than one word
  stands between quotes.
-/

namespace DocSite

open DocSite.Text

/-- Names of fonts by role. -/
structure FontFamilies where
  roles : Table (List String)

namespace FontFamilies

/-- The families that stand for no font in particular. -/
def genericFamilies : List String :=
  ["serif", "sans-serif", "monospace", "cursive", "fantasy", "system-ui", "ui-serif",
    "ui-sans-serif", "ui-monospace", "ui-rounded", "emoji", "math", "fangsong"]

/-- Whether a name is a single word of a stylesheet. -/
def isIdent : List Char → Bool
  | [] => false
  | c :: cs => (c.isAlpha || c == '_') && (c :: cs).all isNameChar

/-- A font name as a stylesheet writes it. -/
def quoteFamily (name : String) : String :=
  let name := trim name
  if genericFamilies.contains name || isIdent name.toList then name else "\"" ++ name ++ "\""

/-- The stack of some fonts. -/
def stackOf (fonts : List String) : String := joinText ", " (fonts.map quoteFamily)

/-- The stack of a role. -/
def stack? (families : FontFamilies) (role : String) : Option String :=
  (families.roles.get? role).map stackOf

/-- Checks one font name. -/
def checkFont (field : FieldPath) (name : String) : Diagnostics :=
  if (trim name).isEmpty then .error field "font name is empty"
  else
    .when (name.toList.any fun c => ['"', ';', '\x7b', '\x7d'].contains c)
      (.error field ("font name " ++ ticked name ++ " contains CSS syntax"))

/-- Checks the fonts of a role. -/
def checkRole (field : FieldPath) (fonts : List String) : Diagnostics :=
  match fonts.getLast? with
  | none => .error field "font stack is empty"
  | some last =>
    .forItems fonts (fun i name => checkFont (field.index i) name) ++
      .when (!genericFamilies.contains last)
        (.warning field
          "stack does not end with a generic family; add a fallback such as `sans-serif`")

/-- Checks every role. -/
def diagnostics (families : FontFamilies) (field : FieldPath) : Diagnostics :=
  .concat (families.roles.entries.map fun (role, fonts) => checkRole (field.key role) fonts)

/-- The roles as JSON. -/
def toJson (families : FontFamilies) : Json :=
  .object (families.roles.entries.map fun (role, fonts) => (role, .strings fonts))

end FontFamilies

end DocSite
