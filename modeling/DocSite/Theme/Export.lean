import DocSite.Theme.Config

/-!
# Exports of a theme

  A theme in the shapes that other tools read: the configuration of the style
  processor as JSON, and a stylesheet with the rules that the theme defines.
-/

namespace DocSite.Theme

open DocSite.Text

/-! ## JSON -/

/-- An entry that is left out when it is empty. -/
def entryUnless (empty : Bool) (key : String) (value : Json) : List (String × Json) :=
  if empty then [] else [(key, value)]

/-- Texts by name as JSON. -/
def textsJson (table : Table String) : Json :=
  .object (table.entries.map fun (key, value) => (key, .string value))

/-- The keyframes as JSON. -/
def keyframesJson (table : KeyframeTable) : Json :=
  .object (table.blocks.entries.map fun (name, frames) => (name, frames.toJson))

/-- The tokens as JSON; kinds without tokens are left out. -/
def tokensJson (t : TokenSet) : Json :=
  .object
    (entryUnless t.colors.tokens.isEmpty "colors" t.colors.toJson ++
      entryUnless t.borderRadius.tiers.isEmpty "borderRadius" (textsJson t.borderRadius.tiers) ++
      entryUnless t.fontFamily.roles.isEmpty "fontFamily" t.fontFamily.toJson ++
      entryUnless t.animation.shorthands.isEmpty "animation" (textsJson t.animation.shorthands) ++
      entryUnless t.keyframes.blocks.isEmpty "keyframes" (keyframesJson t.keyframes) ++
      (t.typography.map fun typography => ("typography", typography.toJson)).toList)

/-- The theme for the style processor. -/
def toJson (t : Theme) : Json :=
  .object
    ([("content", Json.strings (t.content.map (·.text)))] ++
      (t.darkMode.map fun mode => ("darkMode", mode.toJson)).toList ++
      [("theme", .object
          ((t.container.map fun c => ("container", c.toJson)).toList ++
            [("extend", tokensJson t.tokens)])),
        ("plugins", .strings (t.plugins.map (·.package)))])

/-! ## The stylesheet -/

/-- A rule of one declaration, perhaps with a note behind it. -/
def classRule (className property value note : String) : String :=
  "." ++ className ++ " \x7b\n  " ++ property ++ ": " ++ value ++ ";" ++ note ++ "\n\x7d\n"

/-- The class of a radius tier. -/
def radiusClass (tier : String) : String :=
  if tier = "DEFAULT" then "rounded" else "rounded-" ++ tier

/-- The note that tells a radius in pixels. -/
def pxNote (px : Option Binary64) : String :=
  match px with
  | some x => " /* " ++ x.text ++ "px */"
  | none => ""

/-- The rules of the fonts. -/
def fontCss (t : Theme) : String :=
  String.join (t.tokens.fontFamily.roles.entries.map fun (role, fonts) =>
    classRule ("font-" ++ role) "font-family" (FontFamilies.stackOf fonts) "")

/-- The rules of the radii, with their pixels if all of them can be read. -/
def radiusCss (t : Theme) (vars : Option RootVariables) : String :=
  let px := (t.radiusPx Binary64 vars).toOption.getD []
  String.join (t.tokens.borderRadius.tiers.entries.map fun (tier, expr) =>
    classRule (radiusClass tier) "border-radius" expr (pxNote (Table.lookup tier px)))

/-- The blocks of keyframes and the rules of the animations. -/
def animationCss (t : Theme) : String :=
  String.join (t.tokens.keyframes.blocks.entries.map fun (name, frames) =>
    "\n" ++ frames.toCss name) ++
  String.join (t.tokens.animation.shorthands.entries.map fun (name, shorthand) =>
    classRule ("animate-" ++ name) "animation" shorthand "")

/-- The stylesheet of all that the theme defines besides colors. -/
def toCss (t : Theme) (vars : Option RootVariables) : String :=
  ((t.container.map fun c => c.toCss ++ "\n").getD "") ++ t.fontCss ++ t.radiusCss vars ++
    t.animationCss ++ ((t.tokens.typography.map fun typography => "\n" ++ typography.toCss).getD "")

end DocSite.Theme
