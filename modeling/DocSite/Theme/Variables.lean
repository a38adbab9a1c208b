import DocSite.Table
import DocSite.Text.Blank
import DocSite.Text.Split

/-!
# Variables of the root stylesheet

  Custom properties that a stylesheet declares, and the references `var(--x)` to
  them in a text. A declaration follows the start of a line, an opening brace or `;`, and the
  first declaration of a name counts.
-/

namespace DocSite

namespace Variables

open DocSite.Text

/-! ## Comments -/

/-- What follows the next end of a comment. -/
def afterComment? : List Char → Option (List Char)
  | '*' :: '/' :: rest => some rest
  | _ :: rest => afterComment? rest
  | [] => none

theorem length_afterComment? {cs rest : List Char} (h : afterComment? cs = some rest) :
    rest.length < cs.length := by
  induction cs using afterComment?.induct with
  | case1 r =>
    simp only [afterComment?, Option.some.injEq] at h
    subst h; simp only [List.length_cons]; omega
  | case2 c r hc ih =>
    rw [afterComment?] at h
    · have := ih h; simp only [List.length_cons]; omega
    · exact hc
  | case3 => simp [afterComment?] at h

/-- A stylesheet without its comments; one that is never closed is kept. -/
def stripComments (cs : List Char) : List Char :=
  match cs with
  | [] => []
  | '/' :: '*' :: rest =>
    match _h : afterComment? rest with
    | some after => stripComments after
    -- Without an end it is no comment.
    | none => '/' :: '*' :: rest
  | c :: rest => c :: stripComments rest
termination_by cs.length
decreasing_by
  · have := length_afterComment? _h; simp only [List.length_cons]; omega
  · simp

/-! ## Declarations -/

/-- A name behind `--`, with what follows it. -/
def name? (cs : List Char) : Option (List Char × List Char) := do
  let rest ← dropStart? ['-', '-'] cs
  let (name, rest) := rest.span isNameChar
  if name.isEmpty then none else some (name, rest)

/-- A declaration: its name and value, with what follows it. -/
def declaration? (cs : List Char) : Option ((String × String) × List Char) := do
  let (name, rest) ← name? (trimLeft cs)
  match trimLeft rest with
  | ':' :: rest =>
    let (value, rest) := rest.span fun c => c != ';' && c != '\x7d'
    some ((String.ofList name, String.ofList (trimBoth value)), rest)
  | _ => none

/-- A declaration that starts here: at the start of a line, or behind a brace or semicolon. -/
def declarationHere? (lineStart : Bool) (cs : List Char) :
    Option ((String × String) × List Char) :=
  let atLine := if lineStart then declaration? cs else none
  match atLine, cs with
  | some found, _ => some found
  | none, c :: rest => if c == '\x7b' || c == ';' then declaration? rest else none
  | none, [] => none

/-- All declarations of a text without comments; `room` bounds the number of steps. -/
def declarations : (room : Nat) → (lineStart : Bool) → List Char → List (String × String)
  | 0, _, _ => []
  | _ + 1, _, [] => []
  | room + 1, lineStart, c :: cs =>
    match declarationHere? lineStart (c :: cs) with
    -- What ends a declaration may begin the next one, so it is not skipped.
    | some (found, rest) => found :: declarations room false rest
    | none => declarations room (c == '\n') cs

/-! ## References -/

/-- A reference that starts here: its name, with what follows it. -/
def reference? (cs : List Char) : Option (List Char × List Char) := do
  let rest ← dropStart? "var(".toList cs
  name? (trimLeft rest)

/-- The names referenced in a text, in order; `room` bounds the number of steps. -/
def references : (room : Nat) → List Char → List String
  | 0, _ => []
  | _ + 1, [] => []
  | room + 1, c :: cs =>
    match reference? (c :: cs) with
    | some (name, rest) => String.ofList name :: references room rest
    | none => references room cs

/-- The names of all variables referenced in a text, in order. -/
def refs (text : String) : List String := references (text.length + 1) text.toList

end Variables

/-- The variables that a root stylesheet declares, in the order of their first declarations. -/
structure RootVariables where
  table : Table String

namespace RootVariables

/-- The variables of a stylesheet. -/
def parse (css : String) : RootVariables :=
  let text := Variables.stripComments css.toList
  let found := Variables.declarations (text.length + 1) true text
  ⟨found.foldl (fun t (name, value) => t.insertNew name value) Table.empty⟩

/-- The value of a variable. -/
def get? (vars : RootVariables) (name : String) : Option String := vars.table.get? name

/-- Whether a variable is declared. -/
def contains (vars : RootVariables) (name : String) : Bool := vars.table.contains name

/-- The number of variables. -/
def size (vars : RootVariables) : Nat := vars.table.size

end RootVariables

end DocSite
