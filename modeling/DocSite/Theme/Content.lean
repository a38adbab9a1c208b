import DocSite.Diagnostics
import DocSite.Glob.PatternSet
import DocSite.Path
import DocSite.Text.Blank
import DocSite.Theme.Error

/-!
# Content globs

  Which files of a project are scanned for classes: a list of globs relative to
  the root of the project, where `!` in front excludes what a glob matches. A file
  belongs to the input set when some glob includes it and none excludes it.
-/

namespace DocSite

open DocSite.Text

/-! ## Globs -/

/-- An entry of the list, as it is written. -/
structure ContentGlob where
  text : String
  deriving DecidableEq, Repr

namespace ContentGlob

/-- Whether the glob excludes files. -/
def isExclusion (g : ContentGlob) : Bool := startsWith ['!'] (trimLeft g.text.toList)

/-- The pattern without the mark of exclusion and `./` at its front. -/
def pattern (g : ContentGlob) : String :=
  let body := dropFirst '!' (trimBoth g.text.toList)
  String.ofList ((dropStart? ['.', '/'] body).getD body)

/-- The tokens of the pattern. -/
def compile (g : ContentGlob) : Except ThemeError (List Glob.Token) :=
  if g.pattern.isEmpty then .error (.malformedGlob g.text "empty pattern")
  else
    match Glob.parse g.pattern with
    | .ok tokens => .ok tokens
    | .error e => .error (.malformedGlob g.text e.message)

/-- Whether the glob includes files and can be read. -/
def isUsable (g : ContentGlob) : Bool := !g.isExclusion && g.compile.toOption.isSome

/-- Checks one glob. -/
def check (field : FieldPath) (g : ContentGlob) : Diagnostics :=
  match g.compile with
  | .error e => .error field e.message
  | .ok _ =>
    .when (Path.mk g.pattern).isAbsolute
      (.warning field "absolute pattern; content globs are relative to the project root")

/-- Checks a list of globs. -/
def diagnostics (globs : List ContentGlob) (field : FieldPath) : Diagnostics :=
  .when (!globs.any isUsable)
    (.warning field "no usable include globs; no utility classes will be generated") ++
    .forItems globs fun i g => g.check (field.index i)

end ContentGlob

/-! ## Matchers -/

/-- The globs of a list, sorted into those that include and those that exclude. -/
structure ContentMatcher where
  included : Glob.PatternSet := {}
  excluded : Glob.PatternSet := {}

namespace ContentMatcher

/-- The set of patterns; what spoils it is not put down to one glob. -/
def setOf (patterns : List (List Glob.Token)) : Except ThemeError Glob.PatternSet :=
  match Glob.PatternSet.ofPatterns patterns with
  | .ok set => .ok set
  | .error e => .error (.malformedGlob "" e.message)

/-- The matcher of a list; the first glob that cannot be read is reported. -/
def ofGlobs (globs : List ContentGlob) : Except ThemeError ContentMatcher := do
  let read ← globs.mapM fun g => do return (g.isExclusion, ← g.compile)
  let (excluding, including) := read.partition (·.1)
  return { included := ← setOf (including.map (·.2)), excluded := ← setOf (excluding.map (·.2)) }

/-- Whether a path relative to the root belongs to the input set. -/
def isMatch (m : ContentMatcher) (path : Path) : Bool :=
  let text := path.withoutHere.text
  m.included.isMatch text && !m.excluded.isMatch text

end ContentMatcher

end DocSite
