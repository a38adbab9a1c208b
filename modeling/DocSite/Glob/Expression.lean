import DocSite.Glob.Pattern
import DocSite.Text.Split
import DocSite.Text.Utf8

/-!
# Regular expressions of patterns

  A pattern as a regular expression over the bytes of a path. Messages show its
  text, and its depth is limited: a choice counts for every choice around it, and
  a sequence, a repetition and a class each add to what they hold.
-/

namespace DocSite.Glob

open DocSite.Text

/-! ## Expressions -/

/-- A member of a class of bytes. -/
inductive Member where
  | single (b : Nat)
  | range (low high : Nat)
  deriving DecidableEq, Repr

/-- A regular expression; a branch of a group is a sequence of them. -/
inductive Expression where
  | byte (b : Nat)
  | anyByte
  | oneOf (negated : Bool) (members : List Member)
  | repeated (e : Expression)
  | optional (e : Expression)
  | group (branches : List (List Expression))

/-! ## Text -/

/-- Whether a character has a meaning of its own in an expression. -/
def isMeta (c : Char) : Bool := ("\\.+*?()|[]\x7b\x7d^$#&-~".toList).contains c

/-- The text of a byte: itself in ASCII, behind a backslash if it needs one, else its number. -/
def byteText (b : Nat) : String :=
  let c := Char.ofNat b
  if 0x80 ≤ b then "\\x" ++ lowerHex b
  else if isMeta c then "\\" ++ c.toString
  else c.toString

/-- The text of a member of a class. -/
def Member.text : Member → String
  | .single b => byteText b
  | .range low high => byteText low ++ "-" ++ byteText high

mutual

/-- The text of an expression. -/
def Expression.text : Expression → String
  | .byte b => byteText b
  | .anyByte => "."
  | .oneOf negated members =>
    "[" ++ (if negated then "^" else "") ++ String.join (members.map Member.text) ++ "]"
  | .repeated e => e.text ++ "*"
  | .optional e => e.text ++ "?"
  | .group branches => "(?:" ++ "|".intercalate (branchTexts branches) ++ ")"

/-- The text of a sequence. -/
def sequenceText : List Expression → String
  | [] => ""
  | e :: rest => e.text ++ sequenceText rest

/-- The texts of branches. -/
def branchTexts : List (List Expression) → List String
  | [] => []
  | branch :: rest => sequenceText branch :: branchTexts rest

end

/-! ## Depth -/

/-- One level if there are several of something. -/
def levelOf (count : Nat) : Nat := if 1 < count then 1 else 0

mutual

/-- How deep an expression is nested; a single byte is not. -/
def Expression.depth : Expression → Nat
  | .byte _ => 0
  | .anyByte => 0
  | .oneOf _ members => 1 + levelOf members.length
  | .repeated e => 1 + e.depth
  | .optional e => 1 + e.depth
  | .group branches => 1 + levelOf branches.length + branchDepth branches

/-- The depth of the deepest expression of a sequence. -/
def itemDepth : List Expression → Nat
  | [] => 0
  | e :: rest => max e.depth (itemDepth rest)

/-- The depth of the deepest branch. -/
def branchDepth : List (List Expression) → Nat
  | [] => 0
  | branch :: rest => max (levelOf branch.length + itemDepth branch) (branchDepth rest)

end

/-! ## Patterns -/

/-- The members of a class for a range of characters: each byte of its ends by itself, but the
last byte of the first and the first byte of the last span a range. -/
def membersOf : Char × Char → List Member
  | (first, last) =>
    let low := utf8Bytes first
    let high := utf8Bytes last
    if first == last then low.map .single
    else
      low.dropLast.map .single ++ [.range (low.getLastD 0) (high.headD 0)] ++
        (high.drop 1).map .single

/-- A slash. -/
def slashByte : Expression := .byte 0x2f

/-- Any byte but a slash. -/
def nameByte : Expression := .oneOf true [.single 0x2f]

/-- Any run of bytes. -/
def anyBytes : Expression := .repeated .anyByte

/-- A choice between branches; those that say nothing are left out, and so is a choice without
any other. -/
def choiceOf (branches : List (List Expression)) : List Expression :=
  let branches := branches.filter (!·.isEmpty)
  if branches.isEmpty then [] else [.group branches]

mutual

/-- The sequence that a token stands for. -/
def Token.expressions : Token → List Expression
  | .literal c => (utf8Bytes c).map .byte
  | .any => [nameByte]
  | .run => [.repeated nameByte]
  | .leading => [.group [[.optional slashByte], [anyBytes, slashByte]]]
  | .trailing => [slashByte, anyBytes]
  | .between => [.group [[slashByte], [slashByte, anyBytes, slashByte]]]
  | .byteClass negated ranges => [.oneOf negated (ranges.flatMap membersOf)]
  | .choice branches => choiceOf (branchExpressions branches)

/-- The sequence that tokens stand for. -/
def expressionsOf : List Token → List Expression
  | [] => []
  | t :: rest => t.expressions ++ expressionsOf rest

/-- The sequences that branches stand for. -/
def branchExpressions : List (List Token) → List (List Expression)
  | [] => []
  | branch :: rest => expressionsOf branch :: branchExpressions rest

end

/-- The sequence of a pattern. Two stars alone are any run of bytes. -/
def patternExpressions : List Token → List Expression
  | [.leading] => [anyBytes]
  | tokens => expressionsOf tokens

/-- The text of the expression for a pattern, between the ends of a path. -/
def expressionText (tokens : List Token) : String :=
  "(?-u)^" ++ sequenceText (patternExpressions tokens) ++ "$"

/-- The deepest nesting of a pattern. -/
def deepest : Nat := 250

/-- Whether a pattern is nested too deeply; with the ends of a path it always is a sequence. -/
def isTooDeep (tokens : List Token) : Bool := deepest < 1 + itemDepth (patternExpressions tokens)

end DocSite.Glob
