import DocSite.Diagnostics
import DocSite.Json.Basic
import DocSite.Table
import DocSite.Text.Blank
import DocSite.Theme.Error
import DocSite.Theme.Variables

/-!
# Color tokens

  Names for colors. A token is a single color or a group of variants, and groups
  are resolved through flat names: `primary` is the default of the group
  `primary`, `primary-foreground` one of its variants.
-/

namespace DocSite

open DocSite.Text

/-! ## Color values -/

/-- What a color value is. -/
inductive ColorKind where
  /-- A color function over a root variable, as `hsl(var(--primary))`. -/
  | function (func var : String)
  /-- A root variable alone. -/
  | variable (name : String)
  /-- Hexadecimal digits behind `#`. -/
  | hex
  /-- A color function over written channels. -/
  | literal
  /-- One of the words for a color. -/
  | keyword
  deriving DecidableEq, Repr

namespace Color

/-- The color functions. -/
def functions : List String :=
  ["hsl", "hsla", "rgb", "rgba", "oklch", "oklab", "lab", "lch", "hwb"]

/-- The words for a color. -/
def keywords : List String :=
  ["transparent", "current", "currentColor", "inherit", "black", "white"]

/-- A color function at the front: its name, with what follows the parenthesis. -/
def function? (cs : List Char) : Option (String × List Char) := do
  let (name, rest) ← splitOnce '(' cs
  if functions.contains (String.ofList name) then some (String.ofList name, rest) else none

/-- A text without parentheses before the one that ends the value. -/
def lastArgument? (cs : List Char) : Option (List Char) := do
  let inner ← dropEnd? [')'] cs
  if inner.any fun c => c == '(' || c == ')' then none else some inner

/-- A variable name behind `var(`, with what follows the name and blanks after it. -/
def varName? (cs : List Char) : Option (String × List Char) := do
  let rest ← dropStart? "var(".toList cs
  let (name, rest) ← Variables.name? (trimLeft rest)
  return (String.ofList name, trimLeft rest)

/-- A color function over a variable, perhaps with an opacity behind a slash. -/
def functionOverVar? (cs : List Char) : Option ColorKind := do
  let (func, rest) ← function? cs
  let (name, rest) ← varName? (trimLeft rest)
  let rest ← dropStart? [')'] rest
  match trimLeft rest with
  | [')'] => some (.function func name)
  | '/' :: rest =>
    let alpha ← lastArgument? rest
    if alpha.isEmpty then none else some (.function func name)
  | _ => none

/-- A variable alone, perhaps with a fallback behind a comma. -/
def bareVar? (cs : List Char) : Option ColorKind := do
  let (name, rest) ← varName? cs
  match rest with
  | [')'] => some (.variable name)
  | ',' :: rest => (lastArgument? rest).map fun _ => .variable name
  | _ => none

/-- Whether a text is a hexadecimal color. -/
def isHex : List Char → Bool
  | '#' :: digits => [3, 4, 6, 8].contains digits.length && digits.all isHexDigit
  | _ => false

/-- Drops the unit of a channel, if there is one. -/
def dropUnit (cs : List Char) : List Char :=
  ((["%", "deg", "turn", "rad"].findSome? fun unit => dropStart? unit.toList cs)).getD cs

/-- One channel: a number with an optional unit, or `none`. -/
def channel? (cs : List Char) : Option (List Char) :=
  let (digits, rest) := (dropFirst '-' cs).span fun c => c.isDigit || c == '.'
  if !digits.isEmpty then some (dropUnit rest) else dropStart? "none".toList cs

/-- Channels up to the parenthesis that ends the value, with blanks and at most one comma or
slash between neighbours; `room` bounds their number. -/
def areChannels : (room : Nat) → List Char → Bool
  | 0, _ => false
  | room + 1, cs =>
    match channel? cs with
    | none => false
    | some rest =>
      match trimLeft rest with
      | [')'] => true
      | ',' :: rest => areChannels room (trimLeft rest)
      | '/' :: rest => areChannels room (trimLeft rest)
      | rest => areChannels room rest

/-- Whether a text is a color function over written channels. -/
def isLiteral (cs : List Char) : Bool :=
  match function? cs with
  | some (_, rest) => areChannels (rest.length + 1) (trimLeft rest)
  | none => false

/-- What a color value is, blanks around it aside. -/
def kind? (s : String) : Option ColorKind :=
  let cs := trimBoth s.toList
  (functionOverVar? cs).orElse fun _ => (bareVar? cs).orElse fun _ =>
    if isHex cs then some .hex
    else if isLiteral cs then some .literal
    else if keywords.contains (String.ofList cs) then some .keyword
    else none

/-- What a color value is, or why it is none. -/
def kind (s : String) : Except ThemeError ColorKind :=
  match kind? s with
  | some k => .ok k
  | none => .error (.malformedColor s)

/-- The root variable that a color reads. -/
def var? (s : String) : Option String :=
  match kind? s with
  | some (.function _ name) => some name
  | some (.variable name) => some name
  | _ => none

/-- A share of one hundred, at most one, as a number. -/
def opacityText (percent : Nat) : String := (Binary64.ofRatio false (min percent 100) 100).text

/-- The color with an opacity in percent; only color functions over a variable can have one. -/
def withAlpha (s : String) (percent : Nat) : Except ThemeError String := do
  match ← kind s with
  | .function func name => .ok (func ++ "(var(--" ++ name ++ ") / " ++ opacityText percent ++ ")")
  | _ => .error (.unsupportedModifier s)

end Color

/-! ## Tokens -/

/-- The variants of a color: two that every group needs, two more, and shades. -/
structure ColorGroup where
  default : Option String := none
  foreground : Option String := none
  light : Option String := none
  dark : Option String := none
  shades : Table String := .empty

/-- A color, or a group of variants. -/
inductive ColorToken where
  | single (value : String)
  | group (variants : ColorGroup)

namespace ColorGroup

/-- The variants with the keys they are written under, in order. -/
def variants (g : ColorGroup) : List (String × String) :=
  (g.default.map fun v => ("DEFAULT", v)).toList ++
    (g.foreground.map fun v => ("foreground", v)).toList ++
    (g.light.map fun v => ("light", v)).toList ++
    (g.dark.map fun v => ("dark", v)).toList ++
    g.shades.entries

end ColorGroup

/-- The flat name of a group's variant. -/
def variantName (group key : String) : String :=
  if key = "DEFAULT" then group else group ++ "-" ++ key

/-- Lower-case words and digits separated by hyphens. -/
def isShadeName (name : String) : Bool :=
  (splitOn '-' name.toList).all fun word =>
    !word.isEmpty && word.all fun c => c.isLower || c.isDigit

/-- Lower-case words separated by hyphens, the first starting with a letter. -/
def isTokenName (name : String) : Bool :=
  isShadeName name && (name.toList.head?.map Char.isLower).getD false

/-- Color tokens by name. -/
structure ColorTokens where
  tokens : Table ColorToken

namespace ColorTokens

/-! ## Views -/

/-- The flat names of one token with their colors. -/
def flattenToken (name : String) : ColorToken → List (String × String)
  | .single value => [(name, value)]
  | .group g => g.variants.map fun (key, value) => (variantName name key, value)

/-- Every flat name with its color, in order. -/
def flatten (colors : ColorTokens) : List (String × String) :=
  colors.tokens.entries.flatMap fun (name, token) => flattenToken name token

/-- The ways to cut a text at a hyphen, from left to right. -/
def hyphenCuts : List Char → List (List Char × List Char)
  | [] => []
  | c :: cs =>
    let later := (hyphenCuts cs).map fun (a, b) => (c :: a, b)
    if c == '-' then ([], cs) :: later else later

/-- The variant of a group that a cut name points to. -/
def variantAt? (colors : ColorTokens) (group key : String) : Option String :=
  match colors.tokens.get? group with
  | some (.group g) =>
    (g.variants.find? fun (k, _) => k == key && k != "DEFAULT").map Prod.snd
  | _ => none

/-- The color of a flat name. -/
def get? (colors : ColorTokens) (name : String) : Option String :=
  match colors.tokens.get? name with
  | some (.single value) => some value
  | some (.group g) => g.default
  -- A hyphen may be part of a group's name, so every cut is tried.
  | none =>
    (hyphenCuts name.toList).findSome? fun (group, key) =>
      colors.variantAt? (String.ofList group) (String.ofList key)

/-- The color of a flat name, or the error that there is none. -/
def resolve (colors : ColorTokens) (name : String) : Except ThemeError String :=
  match colors.get? name with
  | some value => .ok value
  | none => .error (.unknownToken name name)

/-- The places of a token's colors, with the flat names and the colors. -/
def placed (field : FieldPath) (name : String) : ColorToken → List (String × FieldPath × String)
  | .single value => [(name, field.key name, value)]
  | .group g =>
    g.variants.map fun (key, value) => (variantName name key, (field.key name).key key, value)

/-- The root variables that tokens read, with the places of the readers. -/
def varRefs (colors : ColorTokens) (field : FieldPath) : List (FieldPath × String) :=
  colors.tokens.entries.flatMap fun (name, token) =>
    (placed field name token).filterMap fun (_, place, value) =>
      (Color.var? value).map fun v => (place, v)

/-! ## Checks -/

/-- Checks that a variant that every group needs is there. -/
def checkNeeded (field : FieldPath) (key : String) (value : Option String) : Diagnostics :=
  let hint := "every color group needs a DEFAULT and a foreground color"
  match value with
  | none => .errorWithHint (field.key key) ("missing " ++ ticked key) hint
  | some v =>
    .when (trim v).isEmpty (.errorWithHint (field.key key) (ticked key ++ " is empty") hint)

/-- Checks the variants of a group. -/
def checkGroup (field : FieldPath) (g : ColorGroup) : Diagnostics :=
  checkNeeded field "DEFAULT" g.default ++ checkNeeded field "foreground" g.foreground ++
    .concat (g.shades.keys.map fun key =>
      .when (!isShadeName key)
        (.error (field.key key) (ticked key ++ " is not a valid shade name")))

/-- Checks the name of a token and, for a group, its variants. -/
def checkToken (field : FieldPath) (name : String) (token : ColorToken) : Diagnostics :=
  .when (!isTokenName name)
    (.errorWithHint (field.key name) (ticked name ++ " is not a valid token name")
      "use lowercase words separated by `-`") ++
  match token with
  | .single _ => .none
  | .group g => checkGroup (field.key name) g

/-- Checks colors in order: each is one, and no flat name is taken already. `seen` maps the
flat names so far to the places that defined them. -/
def checkColors : (seen : List (String × FieldPath)) → List (String × FieldPath × String) →
    Diagnostics × List (String × FieldPath)
  | seen, [] => (.none, seen)
  | seen, (flat, place, value) :: rest =>
    let bad :=
      match Color.kind value with
      | .ok _ => Diagnostics.none
      | .error e => .error place e.message
    -- A flat name that comes twice is reported at its second place.
    match Table.lookup flat seen with
    | some first =>
      let (d, seen) := checkColors seen rest
      let taken := "token " ++ ticked flat ++ " is already defined by " ++ first.text
      (bad ++ .error place taken ++ d, seen)
    | none =>
      let (d, seen) := checkColors (seen ++ [(flat, place)]) rest
      (bad ++ d, seen)

/-- Checks tokens in order. -/
def checkTokens (field : FieldPath) : (seen : List (String × FieldPath)) →
    List (String × ColorToken) → Diagnostics
  | _, [] => .none
  | seen, (name, token) :: rest =>
    let (d, seen) := checkColors seen (placed field name token)
    checkToken field name token ++ d ++ checkTokens field seen rest

/-- Checks all tokens. -/
def diagnostics (colors : ColorTokens) (field : FieldPath) : Diagnostics :=
  checkTokens field [] colors.tokens.entries

/-! ## JSON -/

/-- A token as JSON. -/
def tokenJson : ColorToken → Json
  | .single value => .string value
  | .group g => .object (g.variants.map fun (key, value) => (key, .string value))

/-- The tokens as JSON. -/
def toJson (colors : ColorTokens) : Json :=
  .object (colors.tokens.entries.map fun (name, token) => (name, tokenJson token))

end ColorTokens

end DocSite
