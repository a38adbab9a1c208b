import DocSite.Glob.Expression
import DocSite.Glob.Match

/-!
# Sets of patterns

  Patterns that are matched together. Most need no more than a comparison of texts;
  the others become regular expressions, those for one extension each by itself and
  the rest in one list, and an expression that is nested too deeply spoils the set.
-/

namespace DocSite.Glob

/-! ## Kinds of patterns -/

/-- How a pattern of a set is decided. -/
inductive PatternKind where
  /-- By comparing texts. -/
  | plain
  /-- By an expression, for the paths with the extension at its end. -/
  | extension
  /-- By an expression. -/
  | general
  deriving DecidableEq, Repr

/-- Whether a token is a character of an extension. -/
def Token.isExtensionChar (t : Token) : Bool :=
  t.isLiteral && !t.isChar '.' && !t.isChar '/'

/-- Whether a pattern is a text with at most all components before it or all that follows. -/
def isPlain (tokens : List Token) : Bool :=
  match tokens with
  | .leading :: .run :: .literal '.' :: rest => rest.all Token.isExtensionChar
  | .leading :: rest => !rest.isEmpty && rest.all Token.isLiteral
  | tokens =>
    match tokens.getLast? with
    | some .trailing => tokens.dropLast.all Token.isLiteral
    | _ => tokens.all Token.isLiteral

/-- Whether a pattern, which is reversed, ends in a dot and characters of one component. -/
def hasExtension : List Token → Bool
  | [] => false
  | t :: rest => t.isChar '.' || (t.isExtensionChar && hasExtension rest)

/-- The kind of a pattern. -/
def kindOf (tokens : List Token) : PatternKind :=
  if isPlain tokens then .plain
  else if hasExtension tokens.reverse then .extension
  else .general

/-! ## Sets -/

/-- Why patterns do not form a set. -/
inductive SetError where
  /-- The expression of an extension is nested too deeply. -/
  | extensionDepth (expression : String)
  /-- The expression at an index among the general ones is nested too deeply. -/
  | depth (index : Nat)
  deriving DecidableEq, Repr

/-- The text of an error. -/
def SetError.message : SetError → String
  | .extensionDepth expression =>
    "error parsing glob '" ++ expression ++ "': error parsing pattern 0"
  | .depth index => "error parsing pattern " ++ toString index

/-- Patterns that are matched together. -/
structure PatternSet where
  patterns : List (List Token) := []

namespace PatternSet

/-- The patterns of a kind, in order. -/
def ofKind (kind : PatternKind) (patterns : List (List Token)) : List (List Token) :=
  patterns.filter (kindOf · == kind)

/-- The set of patterns; the first expression that is too deep is reported, those of extensions
before the general ones. -/
def ofPatterns (patterns : List (List Token)) : Except SetError PatternSet :=
  match (ofKind .extension patterns).find? isTooDeep with
  | some tokens => .error (.extensionDepth (expressionText tokens))
  | none =>
    match (ofKind .general patterns).findIdx? isTooDeep with
    | some index => .error (.depth index)
    | none => .ok { patterns }

/-- Whether some pattern of the set matches a path. -/
def isMatch (s : PatternSet) (path : String) : Bool := s.patterns.any (Glob.isMatch · path)

end PatternSet

end DocSite.Glob
