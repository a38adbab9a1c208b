import DocSite.Theme.Config

/-!
# Utility classes

  Classes whose values are tokens of a theme: colors by property, radii, fonts and
  animations, behind any number of variants. A class is resolved to a rule: its
  variants become parts of the selector or a media query around the rule.
-/

namespace DocSite

open DocSite.Text

/-- The rule of a utility class. -/
structure Utility where
  selector : String
  atRule : Option String := none
  declarations : List (String × String)
  deriving DecidableEq, Repr

namespace Utility

/-- The color utilities with the properties they set. -/
def colorUtilities : List (String × String) :=
  [("bg", "background-color"), ("text", "color"), ("border", "border-color"),
    ("ring", "--tw-ring-color"), ("outline", "outline-color"), ("fill", "fill"),
    ("stroke", "stroke"), ("accent", "accent-color"), ("caret", "caret-color"),
    ("decoration", "text-decoration-color")]

/-- The variants for states of an element, with the pseudo-classes they stand for. -/
def pseudoVariants : List (String × String) :=
  [("hover", "hover"), ("focus", "focus"), ("focus-visible", "focus-visible"),
    ("focus-within", "focus-within"), ("active", "active"), ("visited", "visited"),
    ("disabled", "disabled"), ("first", "first-child"), ("last", "last-child")]

/-- The media query of dark styles. -/
def darkQuery : String := "@media (prefers-color-scheme: dark)"

/-- Whether a character of a class is escaped in a selector. -/
def needsEscape (c : Char) : Bool := [':', '/', '.', '[', ']', '%', '#'].contains c

/-- A class as a selector writes it. -/
def escapeClass (className : List Char) : List Char :=
  className.flatMap fun c => if needsEscape c then ['\\', c] else [c]

/-- The text of the rule. -/
def display (u : Utility) : String :=
  match u.atRule with
  | none => String.ofList (trimRight (Css.rule 0 u.selector u.declarations).toList)
  | some atRule =>
    String.ofList (trimRight
      (atRule ++ " \x7b\n" ++ Css.rule 1 u.selector u.declarations ++ "\x7d\n").toList)

/-- A share of one hundred behind the slash of a color utility. -/
def percent? (cs : List Char) : Option Nat :=
  let digits := dropFirst '+' cs
  if digits.isEmpty || !digits.all Char.isDigit then none
  else
    let n := Numeral.natOfDigits digits
    if n ≤ 100 then some n else none

end Utility

namespace Theme

open Utility

/-! ## Values -/

/-- The value of a token, or the error that the class names one that is not there. -/
def tokenOr (className token : String) : Option String → Except ThemeError String
  | some value => .ok value
  | none => .error (.unknownToken className token)

/-- The color of a token with perhaps an opacity. -/
def resolveColor (t : Theme) (className : String) (rest : List Char) :
    Except ThemeError String :=
  match splitOnce '/' rest with
  | none =>
    let token := String.ofList rest
    tokenOr className token (t.tokens.colors.get? token)
  | some (token, alpha) => do
    let some percent := percent? alpha | .error (.unknownUtility className)
    let token := String.ofList token
    Color.withAlpha (← tokenOr className token (t.tokens.colors.get? token)) percent

/-- The name of a color utility at the front of a class: its property, with what follows the
hyphen. -/
def colorUtility? (base : List Char) : Option (String × List Char) :=
  colorUtilities.findSome? fun (name, property) =>
    (dropStart? (name.toList ++ ['-']) base).map fun rest => (property, rest)

/-- The declaration of a class without variants; `className` is the whole class. -/
def resolveBase (t : Theme) (className : String) (base : List Char) :
    Except ThemeError (String × String) := do
  let tier? := if base = "rounded".toList then some "DEFAULT".toList
    else dropStart? "rounded-".toList base
  match tier? with
  | some tier =>
    let tier := String.ofList tier
    return ("border-radius", ← tokenOr className tier (t.tokens.borderRadius.get? tier))
  | none =>
    match dropStart? "font-".toList base with
    | some role =>
      let role := String.ofList role
      return ("font-family", ← tokenOr className role (t.tokens.fontFamily.stack? role))
    | none =>
      match dropStart? "animate-".toList base with
      | some name =>
        let name := String.ofList name
        return ("animation",
          ← tokenOr className name (t.tokens.animation.shorthands.get? name))
      | none =>
        match colorUtility? base with
        | some (property, rest) => return (property, ← t.resolveColor className rest)
        | none => .error (.unknownUtility className)

/-! ## Variants -/

/-- A rule with one more variant; none if there is no such variant. -/
def addVariant? (mode : DarkMode) (u : Utility) (variant : String) : Option Utility :=
  if variant = "dark" then
    match mode.selector? with
    | none => some { u with atRule := some darkQuery }
    | some ancestor => some { u with selector := ancestor ++ " " ++ u.selector }
  else
    (Table.lookup variant pseudoVariants).map fun pseudo =>
      { u with selector := u.selector ++ ":" ++ pseudo }

/-- Resolves a class to its rule. -/
def resolveUtility (t : Theme) (text : String) : Except ThemeError Utility :=
  let chars := trimBoth text.toList
  let className := String.ofList chars
  let parts := splitOn ':' chars
  let base := parts.getLast?.getD []
  if base.isEmpty then .error (.unknownUtility className)
  else do
    let declaration ← t.resolveBase className base
    let plain : Utility :=
      { selector := String.ofList ('.' :: escapeClass chars), declarations := [declaration] }
    let variants := parts.dropLast.map String.ofList
    match variants.foldlM (addVariant? t.effectiveDarkMode) plain with
    | some u => .ok u
    | none => .error (.unknownUtility className)

end Theme

end DocSite
