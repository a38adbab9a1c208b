import DocSite.Diagnostics
import DocSite.Table
import DocSite.Theme.Css
import DocSite.Theme.Length
import DocSite.Toml.Decode

/-!
# The page container

  A centered box whose greatest width grows with the screen: one media query a
  screen, in the order of the screens.
-/

namespace DocSite

open DocSite.Text

/-- The settings of the page container. -/
structure Container where
  center : Bool := false
  padding : Option String := none
  screens : Table String := .empty

namespace Container

/-! ## Reading -/

/-- The record of a container. -/
def record : Toml.RecordType Container where
  name := "ContainerConfig"
  fields :=
    [Toml.field "center" Toml.decodeBool fun x r => { r with center := x },
      Toml.field "padding" (Toml.decodeOptional Toml.decodeString)
        fun x r => { r with padding := x },
      Toml.field "screens" (Toml.decodeTable Toml.decodeString)
        fun x r => { r with screens := x }]

/-- Reads a container. -/
def decode : Toml.Decoder Container := Toml.decodeRecord record {}

/-! ## Checks -/

/-- The place of a screen. -/
def screenField (name : String) : FieldPath := FieldPath.key ⟨"theme.container.screens"⟩ name

/-- Checks the padding. -/
def checkPadding (padding : Option String) : Diagnostics :=
  match padding.map Length.parse with
  | some (.error e) => .error ⟨"theme.container.padding"⟩ e.message
  | _ => .none

/-- Checks screens in order; `previous` is the last one that has a width. -/
def checkScreens {α : Type} [Measure α] :
    (previous : Option (String × α)) → List (String × String) → Diagnostics
  | _, [] => .none
  | previous, (name, width) :: rest =>
    match Length.parse width with
    | .error e => .error (screenField name) e.message ++ checkScreens previous rest
    | .ok length =>
      let px : α := length.toPx
      (match previous with
      | none => .none
      | some (earlier, earlierPx) =>
        .when (Measure.less px earlierPx)
          (.warning (screenField name)
            ("narrower than the preceding " ++ ticked earlier ++ " screen"))) ++
        checkScreens (some (name, px)) rest

/-- Checks a container, with lengths measured in `α`. -/
def diagnosticsIn (α : Type) [Measure α] (c : Container) : Diagnostics :=
  checkPadding c.padding ++ checkScreens (none : Option (String × α)) c.screens.entries

/-- Checks a container, with lengths measured in doubles. -/
def diagnostics (c : Container) : Diagnostics := c.diagnosticsIn Binary64

/-! ## Writing -/

/-- The declarations that hold on every screen. -/
def declarations (c : Container) : List (String × String) :=
  [("width", "100%")] ++
    (if c.center then [("marginRight", "auto"), ("marginLeft", "auto")] else []) ++
    match c.padding with
    | none => []
    | some padding => [("paddingRight", padding), ("paddingLeft", padding)]

/-- The media query of a screen. -/
def mediaQuery (width : String) : String :=
  "@media (min-width: " ++ width ++ ") \x7b\n" ++ Css.rule 1 ".container" [("maxWidth", width)] ++
    "\x7d\n"

/-- The rules of the container. -/
def toCss (c : Container) : String :=
  Css.rule 0 ".container" c.declarations ++ String.join (c.screens.values.map mediaQuery)

/-- The container as JSON. -/
def toJson (c : Container) : Json :=
  .object
    ([("center", Json.bool c.center)] ++
      (c.padding.map fun padding => ("padding", Json.string padding)).toList ++
      [("screens", .object (c.screens.entries.map fun (name, width) => (name, .string width)))])

end Container

end DocSite
