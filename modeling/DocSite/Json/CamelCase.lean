import DocSite.Json.Basic
import DocSite.Table
import DocSite.Text.Upper

/-!
# Keys in camel case

  Exports write keys without underscores: each underscore goes, and the letter
  after it is a capital one. Keys that become equal are merged: the place is that
  of the first, the value that of the last.
-/

namespace DocSite

/-- A name in camel case: `started` tells that something was written, `raise` that the next
letter is a capital one. -/
def camelChars : (started raise : Bool) → List Char → List Char
  | _, _, [] => []
  | started, raise, c :: cs =>
    -- Underscores in front raise nothing.
    if c == '_' then camelChars started started cs
    else if raise then Text.upper c ++ camelChars true false cs
    else c :: camelChars true false cs

/-- `apply_base_styles` as `applyBaseStyles`. -/
def camelCase (name : String) : String := String.ofList (camelChars false false name.toList)

namespace Json

mutual

/-- Renames every key of a value, at any depth. -/
def camelKeys : Json → Json
  | .array items => .array (camelItems items)
  | .object members => .object (camelMembers [] members)
  | other => other

/-- Renames the keys of every item. -/
def camelItems : List Json → List Json
  | [] => []
  | item :: rest => camelKeys item :: camelItems rest

/-- Renames the keys of members, and puts them behind the members so far. -/
def camelMembers (done : List (String × Json)) : List (String × Json) → List (String × Json)
  | [] => done
  | (key, value) :: rest => camelMembers (Table.put (camelCase key) (camelKeys value) done) rest

end

end Json

end DocSite
