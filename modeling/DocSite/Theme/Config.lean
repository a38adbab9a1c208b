import DocSite.Theme.Container
import DocSite.Theme.Content
import DocSite.Theme.DarkMode
import DocSite.Theme.Plugin
import DocSite.Theme.Tokens
import DocSite.Toml.Reader

/-!
# Themes

  The record of a theme: the files whose classes count, the plugins of the style
  processor, the page container and the tokens. A theme may extend another one,
  which then lies underneath it.
-/

namespace DocSite

open DocSite.Text

/-- The settings of a theme, with the file that they come from. -/
structure Theme where
  path : Path := ⟨""⟩
  baseFile : Option Path := none
  stylesheet : Option Path := none
  content : List ContentGlob := []
  darkMode : Option DarkMode := none
  plugins : List ThemePlugin := []
  container : Option Container := none
  tokens : TokenSet := {}

/-- A theme that was read, with the keys that mean nothing. -/
structure ThemeReading where
  theme : Theme
  unknownKeys : List String

namespace Theme

/-! ## Reading -/

/-- The record of the section that holds the container and the tokens. -/
def sectionRecord : Toml.RecordType (Option Container × TokenSet) where
  name := "ThemeSection"
  fields :=
    [Toml.field "container" (Toml.decodeOptional Container.decode) fun x r => (x, r.2),
      Toml.field "extend" TokenSet.decode fun x r => (r.1, x)]

/-- The record of a theme. -/
def record : Toml.RecordType Theme where
  name := "ThemeConfig"
  fields :=
    [Toml.field "extends" (Toml.decodeOptional Toml.decodePath)
        fun x r => { r with baseFile := x.map Path.mk },
      Toml.field "stylesheet" (Toml.decodeOptional Toml.decodePath)
        fun x r => { r with stylesheet := x.map Path.mk },
      Toml.field "content" (Toml.decodeList Toml.decodeString)
        fun x r => { r with content := x.map ContentGlob.mk },
      Toml.field "dark_mode" (Toml.decodeOptional DarkMode.decode)
        fun x r => { r with darkMode := x },
      Toml.field "plugins" (Toml.decodeList ThemePlugin.decode) fun x r => { r with plugins := x },
      Toml.field "theme" (Toml.decodeRecord sectionRecord (none, {}))
        fun x r => { r with container := x.1, tokens := x.2 }]

/-- Reads a theme as it is written. -/
def decode : Toml.Decoder Theme := Toml.decodeRecord record {}

/-- Reads the theme of a document. -/
def parse (text : String) : Except Toml.DocumentError ThemeReading :=
  match Toml.parse? text with
  | none => .error .malformed
  | some entries =>
    match Toml.decodeDocument decode entries with
    | .error e => .error (.unfit e)
    | .ok (theme, unknownKeys) => .ok { theme, unknownKeys }

/-! ## Layers -/

/-- The items of both lists, without those of the second that the first has or that come twice. -/
def union {α : Type} [BEq α] (base overlay : List α) : List α :=
  overlay.foldl (fun items x => if items.contains x then items else items ++ [x]) base

/-- The place of the container. -/
def containerField : FieldPath := ⟨"theme.container"⟩

/-- What is wrong with layering a theme on another: what both define. -/
def conflicts (base overlay : Theme) : Diagnostics :=
  TokenSet.redefinedOptional containerField base.path.text base.container overlay.container ++
    TokenSet.conflicts base.path.text base.tokens overlay.tokens

/-- A theme with another one layered on it: lists are united, what the upper one leaves out comes
from the lower one, and tokens are never redefined. -/
def merge (base overlay : Theme) : Except Diagnostics Theme :=
  let found := conflicts base overlay
  if found.isOk then
    .ok
      { path := overlay.path
        baseFile := overlay.baseFile
        stylesheet := overlay.stylesheet.orElse fun _ => base.stylesheet
        content := union base.content overlay.content
        darkMode := overlay.darkMode.orElse fun _ => base.darkMode
        plugins := union base.plugins overlay.plugins
        container := TokenSet.mergeOptional base.container overlay.container
        tokens := base.tokens.merge overlay.tokens }
  else .error found

/-! ## Derived values -/

/-- The way dark styles are switched on; by the system unless the theme says otherwise. -/
def effectiveDarkMode (t : Theme) : DarkMode := t.darkMode.getD .media

/-- Whether a plugin is enabled. -/
def hasPlugin (t : Theme) (plugin : ThemePlugin) : Bool := t.plugins.contains plugin

/-- The matcher of the content globs. -/
def contentMatcher (t : Theme) : Except ThemeError ContentMatcher :=
  ContentMatcher.ofGlobs t.content

/-- The root length of the radii: that of the stylesheet, or half a `rem`. -/
def rootLength (vars : Option RootVariables) : Length :=
  (vars.bind RootVariables.radius?).getD defaultRadius

/-- Every radius in pixels. -/
def radiusPx (α : Type) [Measure α] (t : Theme) (vars : Option RootVariables) :
    Except ThemeError (List (String × α)) :=
  t.tokens.borderRadius.resolve (rootLength vars)

/-! ## Checks -/

/-- Checks that every root variable that a token reads is declared. -/
def checkVarRefs (t : Theme) (vars : RootVariables) : Diagnostics :=
  let stylesheet := (t.stylesheet.map (·.text)).getD ""
  .concat (t.tokens.varRefs.map fun (place, name) =>
    .when (!vars.contains name)
      (.errorWithHint place (ticked ("--" ++ name) ++ " is not declared in the root stylesheet")
        ("declare it in " ++ stylesheet)))

/-- Checks the whole theme, and against a stylesheet if there is one. -/
def diagnostics (t : Theme) (vars : Option RootVariables) : Diagnostics :=
  ContentGlob.diagnostics t.content ⟨"content"⟩ ++
    ThemePlugin.diagnostics t.plugins ⟨"plugins"⟩ ++
    ((t.container.map Container.diagnostics).getD .none) ++
    t.tokens.diagnostics (t.hasPlugin .typography) ++
    ((vars.map t.checkVarRefs).getD .none)

end Theme

end DocSite
