import DocSite.Theme.Animation
import DocSite.Theme.Color
import DocSite.Theme.Font
import DocSite.Theme.Radius
import DocSite.Theme.Typography

/-!
# Token sets

  All tokens that a theme adds to the style processor's own: colors, radii, fonts,
  animations with their keyframes, and prose styles. Two sets can be layered: the
  upper one adds tokens to the lower one but never redefines any.
-/

namespace DocSite

open DocSite.Text

/-- The tokens of a theme. -/
structure TokenSet where
  colors : ColorTokens := ⟨.empty⟩
  borderRadius : RadiusScale := ⟨.empty⟩
  fontFamily : FontFamilies := ⟨.empty⟩
  animation : Animations := ⟨.empty⟩
  keyframes : KeyframeTable := ⟨.empty⟩
  typography : Option Typography := none

/-! ## Reading -/

/-- Reads a property value. -/
def Css.Value.decode : Toml.Decoder Css.Value
  | _, .string s => pure (.text s)
  | _, .integer n => pure (.integer n)
  | _, .float x => pure (.number x)
  | _, _ => throw (.noVariant "CssValue")

/-- A group with one more variant. -/
def ColorGroup.add (g : ColorGroup) (key value : String) : ColorGroup :=
  if key = "DEFAULT" then { g with default := some value }
  else if key = "foreground" then { g with foreground := some value }
  else if key = "light" then { g with light := some value }
  else if key = "dark" then { g with dark := some value }
  else { g with shades := g.shades.insert key value }

/-- The group of some entries, if all of them are texts. -/
def ColorGroup.ofEntries? (entries : List (String × Toml.Value)) : Option ColorGroup :=
  entries.foldlM
    (fun g (key, v) =>
      match v with
      | .string value => some (g.add key value)
      | _ => none)
    {}

/-- Reads a token: a color, or a table of variants. -/
def ColorToken.decode : Toml.Decoder ColorToken
  | _, .string value => pure (.single value)
  -- One variant that is no text spoils the whole token.
  | _, v =>
    match v.entries?.bind ColorGroup.ofEntries? with
    | some g => pure (.group g)
    | none => throw (.noVariant "ColorToken")

namespace TokenSet

/-- The record of a token set. -/
def record : Toml.RecordType TokenSet where
  name := "ThemeExtend"
  fields :=
    [Toml.field "colors" (Toml.decodeTable ColorToken.decode) fun x r => { r with colors := ⟨x⟩ },
      Toml.field "border_radius" (Toml.decodeTable Toml.decodeString)
        fun x r => { r with borderRadius := ⟨x⟩ },
      Toml.field "font_family" (Toml.decodeTable (Toml.decodeList Toml.decodeString))
        fun x r => { r with fontFamily := ⟨x⟩ },
      Toml.field "animation" (Toml.decodeTable Toml.decodeString)
        fun x r => { r with animation := ⟨x⟩ },
      Toml.field "keyframes"
        (Toml.decodeTable (Toml.decodeTable (Toml.decodeTable Css.Value.decode)))
        fun x r => { r with keyframes := ⟨x.map Keyframes.mk⟩ },
      Toml.field "typography" (Toml.decodeOptional Typography.decode)
        fun x r => { r with typography := x }]

/-- Reads a token set. -/
def decode : Toml.Decoder TokenSet := Toml.decodeRecord record {}

/-! ## Places -/

/-- The place of the colors. -/
def colorsField : FieldPath := ⟨"theme.extend.colors"⟩

/-- The place of the radii. -/
def radiusField : FieldPath := ⟨"theme.extend.border_radius"⟩

/-- The place of the fonts. -/
def fontField : FieldPath := ⟨"theme.extend.font_family"⟩

/-- The place of the animations. -/
def animationField : FieldPath := ⟨"theme.extend.animation"⟩

/-- The place of the keyframes. -/
def keyframesField : FieldPath := ⟨"theme.extend.keyframes"⟩

/-- The place of the prose styles. -/
def typographyField : FieldPath := ⟨"theme.extend.typography"⟩

/-! ## Checks -/

/-- The root variables that tokens read, with the places of the readers. -/
def varRefs (tokens : TokenSet) : List (FieldPath × String) :=
  tokens.colors.varRefs colorsField ++ tokens.borderRadius.varRefs radiusField ++
    match tokens.typography with
    | some t => t.varRefs typographyField
    | none => []

/-- Checks the prose styles; they need their plugin. -/
def checkTypography (tokens : TokenSet) (hasPlugin : Bool) : Diagnostics :=
  match tokens.typography with
  | none => .none
  | some t =>
    t.diagnostics typographyField ++
      .when (!hasPlugin)
        (.errorWithHint typographyField "typography override without the typography plugin"
          "add \"typography\" to plugins")

/-- Checks all tokens; `hasPlugin` tells whether prose styles have their plugin. -/
def diagnostics (tokens : TokenSet) (hasPlugin : Bool) : Diagnostics :=
  tokens.colors.diagnostics colorsField ++ tokens.borderRadius.diagnostics radiusField ++
    tokens.fontFamily.diagnostics fontField ++ tokens.keyframes.diagnostics keyframesField ++
    tokens.animation.diagnostics animationField tokens.keyframes ++
    tokens.checkTypography hasPlugin

/-! ## Layers -/

/-- The entries of both tables; those of the lower one win. -/
def mergeTables {α : Type} (base overlay : Table α) : Table α :=
  overlay.entries.foldl (fun t (key, value) => t.insertNew key value) base

/-- What is wrong with layering two tables: names that both have. -/
def redefined {α : Type} (field : FieldPath) (baseName : String) (base overlay : Table α) :
    Diagnostics :=
  .concat (overlay.keys.map fun key =>
    .when (base.contains key)
      (.errorWithHint (field.key key)
        (ticked key ++ " is already defined by the base theme " ++ baseName)
        "an extending theme may add tokens but not redefine them"))

/-- The one of two optional values that is there; the lower one if both are. -/
def mergeOptional {α : Type} (base overlay : Option α) : Option α :=
  match base with
  | some x => some x
  | none => overlay

/-- What is wrong with layering two optional values: that both are there. -/
def redefinedOptional {α : Type} (field : FieldPath) (baseName : String)
    (base overlay : Option α) : Diagnostics :=
  .when (base.isSome && overlay.isSome)
    (.error field ("already defined by the base theme " ++ baseName))

/-- The tokens of both sets. -/
def merge (base overlay : TokenSet) : TokenSet where
  colors := ⟨mergeTables base.colors.tokens overlay.colors.tokens⟩
  borderRadius := ⟨mergeTables base.borderRadius.tiers overlay.borderRadius.tiers⟩
  fontFamily := ⟨mergeTables base.fontFamily.roles overlay.fontFamily.roles⟩
  animation := ⟨mergeTables base.animation.shorthands overlay.animation.shorthands⟩
  keyframes := ⟨mergeTables base.keyframes.blocks overlay.keyframes.blocks⟩
  typography := mergeOptional base.typography overlay.typography

/-- What is wrong with layering two sets. -/
def conflicts (baseName : String) (base overlay : TokenSet) : Diagnostics :=
  redefined colorsField baseName base.colors.tokens overlay.colors.tokens ++
    redefined radiusField baseName base.borderRadius.tiers overlay.borderRadius.tiers ++
    redefined fontField baseName base.fontFamily.roles overlay.fontFamily.roles ++
    redefined animationField baseName base.animation.shorthands overlay.animation.shorthands ++
    redefined keyframesField baseName base.keyframes.blocks overlay.keyframes.blocks ++
    redefinedOptional typographyField baseName base.typography overlay.typography

end TokenSet

end DocSite
