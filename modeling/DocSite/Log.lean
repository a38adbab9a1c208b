import DocSite.Diagnostics

/-!
# Log lines

  Messages to the user, each on a line of its own after the name of the part of
  the program that speaks. The color of the name tells what kind of part it is.
-/

namespace DocSite.Log

/-- The color of a part's name. -/
def color (part : String) : Ansi.Color :=
  if ["check", "init", "export"].contains part then .brightGreen
  else if ["config", "theme", "content"].contains part then .brightBlue
  else if part == "error" then .brightRed
  else if part == "hint" then .brightCyan
  else .brightYellow

/-- A message as a line. -/
def line (part message : String) : String :=
  Ansi.clearLine ++ Ansi.bold (Ansi.paint (color part) ("[" ++ part ++ "]")) ++ " " ++
    message ++ "\n"

/-- The lines that list the warnings of a record; nothing if there are none. -/
def warnings (d : Diagnostics) : String :=
  if d.warnings.isEmpty then ""
  else
    line "warning" (counted d.warnings.length "config warning" ++ ":") ++
      String.join (d.warnings.map fun w =>
        "- " ++ Ansi.paint .cyan w.field.text ++ " " ++ w.message ++ "\n")

/-- The lines that list unknown keys of a file. -/
def unknownKeys (file : String) (keys : List String) : String :=
  "\n" ++ line "warning" ("unknown fields in " ++ file ++ ":") ++ line "warning" "ignoring:" ++
    String.join (keys.map fun key => "- " ++ key ++ "\n") ++ "\n"

end DocSite.Log
