import DocSite.Diagnostics
import DocSite.Table
import DocSite.Theme.Length
import DocSite.Theme.Variables

/-!
# Radius tiers

  The border radii of a theme by tier. A radius is a length, or a root variable
  with an offset; for a length of the root variable every tier has a value in
  pixels. Known tiers are ordered by size, and a scale that can put a larger tier
  below a smaller one is reported.
-/

namespace DocSite

open DocSite.Text

/-! ## Forms -/

/-- A radius: a root variable plus or minus a length, or a length. -/
inductive RadiusForm where
  | fromVar (name : String) (minus : Bool) (offset : Length)
  | fixed (length : Length)
  deriving DecidableEq, Repr

namespace RadiusForm

/-- `var(--x)` at the front: the name of the variable, with what follows. -/
def rootVar? (cs : List Char) : Option (String × List Char) := do
  let rest ← dropStart? "var(".toList cs
  let (name, rest) ← Variables.name? (trimLeft rest)
  let rest ← dropStart? [')'] (trimLeft rest)
  return (String.ofList name, rest)

/-- The inside of `calc(…)`: a variable, a sign and an unsigned length. -/
def sum? (cs : List Char) : Option (String × Bool × List Char) := do
  let (name, rest) ← rootVar? (trimLeft (← dropStart? "calc(".toList cs))
  match trimLeft rest with
  | sign :: rest =>
    if sign == '+' || sign == '-' then
      let (digits, rest) := (trimLeft rest).span fun c => c.isDigit || c == '.'
      let (unit, rest) := rest.span Char.isLower
      if digits.isEmpty then none
      else if trimLeft rest = [')'] then some (name, sign == '-', digits ++ unit)
      else none
    else none
  | [] => none

/-- Reads a radius. -/
def parse (s : String) : Except ThemeError RadiusForm :=
  let cs := trimBoth s.toList
  match rootVar? cs with
  | some (name, []) => .ok (.fromVar name false Length.zero)
  | _ =>
    match sum? cs with
    | some (name, minus, offset) =>
      match Length.read? offset with
      | some length => .ok (.fromVar name minus length)
      | none => .error (.malformedRadius s)
    | none =>
      match Length.read? cs with
      | some length => .ok (.fixed length)
      | none => .error (.malformedRadius s)

/-- The offset of a variable in pixels, with its sign. -/
def offsetPx {α : Type} [Measure α] (minus : Bool) (offset : Length) : α :=
  if minus then -offset.toPx else offset.toPx

/-- The radius in pixels for a length of the root variable; never below zero. -/
def eval {α : Type} [Measure α] (root : Length) : RadiusForm → α
  | .fromVar _ minus offset => Measure.clamp (root.toPx + offsetPx minus offset)
  | .fixed length => Measure.clamp length.toPx

end RadiusForm

/-! ## Scales -/

/-- The tiers in ascending order of size. -/
def tierOrder : List String := ["none", "sm", "DEFAULT", "md", "lg", "xl", "2xl", "3xl", "full"]

/-- The root length when the stylesheet declares none: half a `rem`. -/
def defaultRadius : Length := ⟨⟨false, 5, -1⟩, .rem⟩

/-- The `--radius` of a stylesheet, when it is a length. -/
def RootVariables.radius? (vars : RootVariables) : Option Length := do
  (Length.parse (← vars.get? "radius")).toOption

/-- Radii by tier, as they are written. -/
structure RadiusScale where
  tiers : Table String

namespace RadiusScale

/-- The radius of a tier. -/
def get? (scale : RadiusScale) (tier : String) : Option String := scale.tiers.get? tier

/-- Every tier in pixels for a root length; the first tier that cannot be read is reported. -/
def resolve {α : Type} [Measure α] (scale : RadiusScale) (root : Length) :
    Except ThemeError (List (String × α)) :=
  scale.tiers.entries.mapM fun (tier, expr) => do
    return (tier, (← RadiusForm.parse expr).eval root)

/-- The root variables that tiers read, with the places of the readers. -/
def varRefs (scale : RadiusScale) (field : FieldPath) : List (FieldPath × String) :=
  scale.tiers.entries.filterMap fun (tier, expr) =>
    match RadiusForm.parse expr with
    | .ok (.fromVar name _ _) => some (field.key tier, name)
    | _ => none

/-- The known tiers that can be read, in the order of their sizes. -/
def ordered (scale : RadiusScale) : List (String × RadiusForm) :=
  tierOrder.filterMap fun tier => do
    let form ← (RadiusForm.parse (← scale.get? tier)).toOption
    return (tier, form)

/-- How the form of a larger tier compares with that of the next smaller one. -/
inductive Comparison where
  | inOrder
  | inverted
  | dependsOnRoot
  deriving DecidableEq, Repr

/-- Compares the forms of two neighbouring tiers. -/
def compare (α : Type) [Measure α] : RadiusForm → RadiusForm → Comparison
  | .fromVar a minusA offsetA, .fromVar b minusB offsetB =>
    -- Offsets from one variable compare whatever its value is.
    if a = b then
      if Measure.less (RadiusForm.offsetPx minusB offsetB : α) (RadiusForm.offsetPx minusA offsetA)
      then .inverted else .inOrder
    else .dependsOnRoot
  | .fixed a, .fixed b =>
    if Measure.less (b.toPx : α) a.toPx then .inverted else .inOrder
  | _, _ => .dependsOnRoot

/-- What is to be said about two neighbouring tiers. -/
def checkPair (α : Type) [Measure α] (field : FieldPath) (small large : String × RadiusForm) :
    Diagnostics :=
  match compare α small.2 large.2 with
  | .inOrder => .none
  | .inverted =>
    .errorWithHint (field.key large.1)
      (ticked large.1 ++ " resolves smaller than " ++ ticked small.1)
      "larger tiers need a larger (or equal) offset"
  | .dependsOnRoot =>
    .warning (field.key large.1)
      ("ordering of " ++ ticked small.1 ++ " and " ++ ticked large.1 ++
        " depends on the root value")

/-- Checks the neighbours of an ordered list of tiers. -/
def checkPairs (α : Type) [Measure α] (field : FieldPath) :
    List (String × RadiusForm) → Diagnostics
  | small :: large :: rest => checkPair α field small large ++ checkPairs α field (large :: rest)
  | _ => .none

/-- Checks that every radius can be read and that no known tiers are out of order, with lengths
measured in `α`. -/
def diagnosticsIn (α : Type) [Measure α] (scale : RadiusScale) (field : FieldPath) : Diagnostics :=
  let unreadable := scale.tiers.entries.map fun (tier, expr) =>
    match RadiusForm.parse expr with
    | .ok _ => Diagnostics.none
    | .error e => .error (field.key tier) e.message
  .concat unreadable ++ checkPairs α field scale.ordered

/-- Checks a scale, with lengths measured in doubles. -/
def diagnostics (scale : RadiusScale) (field : FieldPath) : Diagnostics :=
  scale.diagnosticsIn Binary64 field

end RadiusScale

end DocSite
