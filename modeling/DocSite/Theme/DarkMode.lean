import DocSite.Json.Basic
import DocSite.Text.Blank
import DocSite.Toml.Decode

/-!
# Dark mode

  How dark styles are switched on: by the preference of the system, or below an
  ancestor that a selector names.
-/

namespace DocSite

open DocSite.Text

/-- How dark styles are switched on. -/
inductive DarkMode where
  /-- By the preference of the system. -/
  | media
  /-- Below an ancestor; `.dark` if no selector is given. -/
  | ancestor (selector : Option String)
  deriving DecidableEq, Repr

namespace DarkMode

/-- The selector of the ancestor, if there is one. -/
def selector? : DarkMode → Option String
  | .media => none
  | .ancestor selector => some (selector.getD ".dark")

/-! ## Reading -/

/-- The strategy with a name and perhaps a selector. -/
def ofStrategy (name : String) (selector : Option String) : Except String DarkMode :=
  match name, selector with
  | "media", none => .ok .media
  | "media", some _ => .error "the `media` strategy takes no selector"
  | name, selector =>
    if name = "class" || name = "selector" then
      if selector.any fun s => (trim s).isEmpty then .error "dark_mode selector is empty"
      else .ok (.ancestor selector)
    else
      .error ("unknown dark_mode strategy " ++ ticked name ++ ", expected `media` or `class`")

/-- The strategy of a list of a name and perhaps a selector. -/
def ofList : List String → Except String DarkMode
  | [] => .error "dark_mode list is empty"
  | [name] => ofStrategy name none
  | [name, selector] => ofStrategy name (some selector)
  | _ => .error "dark_mode takes at most a strategy and a selector"

/-- The texts of values that are nothing but texts. -/
def texts? (items : List Toml.Value) : Option (List String) :=
  items.mapM fun
    | .string s => some s
    | _ => none

/-- Reads a strategy: a name, or a list. -/
def decode : Toml.Decoder DarkMode := fun _ v =>
  let result :=
    match v with
    | .string name => some (ofStrategy name none)
    | .array items => (texts? items).map ofList
    | _ => none
  match result with
  | none => throw (.noVariant "DarkModeRepr")
  | some (.ok mode) => pure mode
  | some (.error message) => throw (.other message)

/-- The strategy as JSON. -/
def toJson : DarkMode → Json
  | .media => .string "media"
  | .ancestor none => .strings ["class"]
  | .ancestor (some selector) => .strings ["class", selector]

end DarkMode

end DocSite
