import DocSite.Text.Quoted

/-!
# Errors of the theme's value languages

  Why a value of a theme cannot be read, or a class cannot be resolved.
-/

namespace DocSite

open DocSite.Text

/-- Why a theme value or a utility class makes no sense. -/
inductive ThemeError where
  | unknownToken (utility token : String)
  | unknownUtility (utility : String)
  | unsupportedModifier (color : String)
  | malformedColor (text : String)
  | malformedRadius (text : String)
  | malformedLength (text : String)
  | malformedAnimation (text reason : String)
  | malformedOffset (text : String)
  | malformedGlob (pattern reason : String)
  deriving DecidableEq, Repr

/-- The text of an error. -/
def ThemeError.message : ThemeError → String
  | .unknownToken utility token => "unknown token " ++ ticked token ++ " in " ++ ticked utility
  | .unknownUtility utility => ticked utility ++ " is not a theme utility"
  | .unsupportedModifier color =>
    "opacity modifier on " ++ ticked color ++ " needs a color defined through a color function"
  | .malformedColor text => "malformed color value " ++ ticked text
  | .malformedRadius text =>
    "malformed radius " ++ ticked text ++
      "; expected var(--x), calc(var(--x) ± <length>) or a length"
  | .malformedLength text => "malformed length " ++ ticked text
  | .malformedAnimation text reason => "malformed animation " ++ ticked text ++ ": " ++ reason
  | .malformedOffset text =>
    "malformed keyframe offset " ++ ticked text ++ "; expected from, to or 0%-100%"
  | .malformedGlob pattern reason => "malformed glob " ++ ticked pattern ++ ": " ++ reason

end DocSite
