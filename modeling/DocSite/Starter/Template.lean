import DocSite.Text.Blank
import DocSite.Toml.Printer

/-!
# Templates of sections

  A commented TOML text for each section of a record: what the section is for, its
  keys with what they start as, and the sections below it. Keys come before
  sections, as TOML demands.
-/

namespace DocSite.Starter

open DocSite.Text

/-! ## Sections -/

/-- What a template shows as the value of a key. -/
inductive KeyValue where
  /-- What the key starts as. -/
  | initial (value : Toml.Value)
  /-- A text to start from. -/
  | example (text : String)
  /-- Nothing: the key is commented out. -/
  | unset

/-- A key of a section, with the comment above it. -/
structure Key where
  name : String
  doc : String := ""
  value : KeyValue

/-- A section of a record: its path, the comment above it, its keys and the sections below. -/
inductive Section where
  | mk (name doc : String) (keys : List Key) (parts : List Section)

namespace Section

/-- The path of a section. -/
def name : Section → String
  | .mk name _ _ _ => name

/-- The comment above a section. -/
def doc : Section → String
  | .mk _ doc _ _ => doc

end Section

/-! ## Text -/

/-- The lines of a comment. -/
def commentLines (doc : String) : String :=
  if doc.isEmpty then ""
  else String.join ((splitText '\n' doc).map fun line => "# " ++ trim line ++ "\n")

/-- The line of a key. -/
def Key.line (key : Key) : String :=
  match key.value with
  | .initial value => key.name ++ " = " ++ value.text ++ "\n"
  | .example text => key.name ++ " = " ++ text ++ "\n"
  | .unset => "# " ++ key.name ++ " = \"\"\n"

/-- The lines of keys. -/
def keyLines (keys : List Key) : String :=
  String.join (keys.map fun key => commentLines key.doc ++ key.line)

/-- The header of a section; the root has none. -/
def header (name : String) : String := if name.isEmpty then "" else "[" ++ name ++ "]\n"

mutual

/-- The template of a section under its comment and header. -/
def Section.withHeader : Section → String
  | .mk name doc keys parts =>
    commentLines doc ++ header name ++ keyLines keys ++ partsText parts

/-- The templates of sections, each after a blank line. -/
def partsText : List Section → String
  | [] => ""
  | part :: rest => "\n" ++ part.withHeader ++ partsText rest

end

/-- The template of a section without its comment and header. -/
def Section.body : Section → String
  | .mk _ _ keys parts => keyLines keys ++ partsText parts

end DocSite.Starter
