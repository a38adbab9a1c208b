import DocSite.FieldPath
import DocSite.Plural

/-!
# Diagnostics

  What is wrong with a record: errors, which make it unusable, and warnings. Both
  keep the order in which they were reported, and collections are appended.
-/

namespace DocSite

/-- An error at a place of a record, perhaps with a hint how to mend it. -/
structure Diagnostic where
  field : FieldPath
  message : String
  hint : Option String := none
  deriving DecidableEq, Repr

/-- A warning at a place of a record. -/
structure Warning where
  field : FieldPath
  message : String
  deriving DecidableEq, Repr

/-- The errors and warnings about a record, in the order of reporting. -/
structure Diagnostics where
  errors : List Diagnostic := []
  warnings : List Warning := []
  deriving DecidableEq, Repr

/-! ## One diagnostic -/

/-- The lines of an error on a terminal. -/
def Diagnostic.display (d : Diagnostic) : String :=
  Ansi.dim "[" ++ Ansi.paint .cyan d.field.text ++ Ansi.dim "]" ++ "\n" ++
    Ansi.paint .red "→" ++ " " ++ d.message ++
    match d.hint with
    | none => ""
    | some hint => "\n  " ++ Ansi.paint .yellow "hint:" ++ " " ++ hint

namespace Diagnostics

/-! ## Collecting -/

/-- Nothing to report. -/
def none : Diagnostics := {}

instance : Inhabited Diagnostics := ⟨none⟩

/-- One error. -/
def error (field : FieldPath) (message : String) : Diagnostics :=
  { errors := [{ field, message }] }

/-- One error with a hint. -/
def errorWithHint (field : FieldPath) (message hint : String) : Diagnostics :=
  { errors := [{ field, message, hint := some hint }] }

/-- One warning. -/
def warning (field : FieldPath) (message : String) : Diagnostics :=
  { warnings := [{ field, message }] }

/-- All reports of the first collection, then all of the second. -/
def append (a b : Diagnostics) : Diagnostics :=
  { errors := a.errors ++ b.errors, warnings := a.warnings ++ b.warnings }

instance : Append Diagnostics := ⟨append⟩

@[simp] theorem errors_append (a b : Diagnostics) : (a ++ b).errors = a.errors ++ b.errors := rfl

@[simp] theorem warnings_append (a b : Diagnostics) :
    (a ++ b).warnings = a.warnings ++ b.warnings := rfl

/-- The collections of a list, one after the other. -/
def concat (ds : List Diagnostics) : Diagnostics := ds.foldr (· ++ ·) none

/-- A collection under a condition. -/
def when (condition : Bool) (d : Diagnostics) : Diagnostics := if condition then d else none

/-- What each item of a list gives rise to, by index. -/
def forItems {α : Type} (items : List α) (f : Nat → α → Diagnostics) : Diagnostics :=
  concat (items.zipIdx.map fun (x, i) => f i x)

/-- Whether a record with these diagnostics can be used. -/
def isOk (d : Diagnostics) : Bool := d.errors.isEmpty

/-! ## On a terminal -/

/-- The text of all errors: a heading, the errors separated by blank lines, and their number
if there are several. -/
def display (d : Diagnostics) : String :=
  Ansi.bold (Ansi.paint .red "config validation failed:") ++ "\n\n" ++
    Text.joinText "\n\n" (d.errors.map Diagnostic.display) ++
    if 1 < d.errors.length then
      "\n\n" ++ Ansi.dim "found" ++ " " ++
        Ansi.bold (Ansi.paint .red (toString d.errors.length)) ++ " " ++ Ansi.dim "errors"
    else ""

end Diagnostics

end DocSite
