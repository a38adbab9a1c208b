import DocSite.Diagnostics
import DocSite.Toml.Decode

/-!
# Plugins of the style processor
-/

namespace DocSite

open DocSite.Text

/-- The known plugins of the style processor. -/
inductive ThemePlugin where
  | typography
  | forms
  | aspectRatio
  | containerQueries
  deriving DecidableEq, Repr

namespace ThemePlugin

/-- The name of a plugin. -/
def name : ThemePlugin → String
  | .typography => "typography"
  | .forms => "forms"
  | .aspectRatio => "aspect-ratio"
  | .containerQueries => "container-queries"

/-- The package that the style processor loads. -/
def package (p : ThemePlugin) : String := "@tailwindcss/" ++ p.name

/-- The plugins by name. -/
def choices : List (String × ThemePlugin) :=
  [.typography, .forms, .aspectRatio, .containerQueries].map fun p => (p.name, p)

/-- Reads a plugin. -/
def decode : Toml.Decoder ThemePlugin := Toml.decodeChoice choices

/-- Warns about plugins that are listed again. -/
def diagnostics (plugins : List ThemePlugin) (field : FieldPath) : Diagnostics :=
  .forItems plugins fun i plugin =>
    .when ((plugins.take i).contains plugin)
      (.warning (field.index i) ("plugin " ++ ticked plugin.name ++ " is listed twice"))

end ThemePlugin

end DocSite
