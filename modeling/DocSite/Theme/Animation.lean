import DocSite.Diagnostics
import DocSite.Table
import DocSite.Theme.Css
import DocSite.Theme.Error

/-!
# Animations and keyframes

  The shorthand of an animation is a list of words, each of which says by its form
  what it sets: times, a timing function, a number of iterations, a direction, a
  fill mode, a play state, or the name of the keyframes. Blanks inside
  parentheses belong to a word, and a comma is a word of its own.
-/

namespace DocSite

open DocSite.Text

/-! ## Words -/

namespace Shorthand

/-- The words so far and the open one, if it has begun; both are reversed. -/
def closeWord (word : List Char) (words : List (List Char)) : List (List Char) :=
  if word.isEmpty then words else word.reverse :: words

/-- Splits a shorthand at the blanks and commas outside parentheses; none when the parentheses
do not match. -/
def split (depth : Nat) (word : List Char) (words : List (List Char)) :
    List Char → Option (List (List Char))
  | [] => if depth = 0 then some (closeWord word words).reverse else none
  | c :: cs =>
    if c == '(' then split (depth + 1) (c :: word) words cs
    else if c == ')' then
      match depth with
      | 0 => none
      | depth + 1 => split depth (c :: word) words cs
    else if c == ',' && depth == 0 then split depth [] ([c] :: closeWord word words) cs
    else if isBlank c && depth == 0 then split depth [] (closeWord word words) cs
    else split depth (c :: word) words cs

/-- The words of a shorthand. -/
def words? (cs : List Char) : Option (List (List Char)) := split 0 [] [] cs

/-! ## Forms of words -/

/-- A number that starts with a digit, a point or a minus. -/
def number? (word : List Char) : Option Binary64 :=
  match word with
  | [] => none
  | c :: _ => if c.isDigit || c == '.' || c == '-' then Binary64.parse? word else none

/-- A time in milliseconds, written in `ms` or `s`; never negative. -/
def time? (word : List Char) : Option Binary64 := do
  let (digits, scale) ←
    match dropEnd? ['m', 's'] word with
    | some digits => some (digits, (1 : Int))
    | none => (dropEnd? ['s'] word).map fun digits => (digits, 1000)
  let x ← number? digits
  if (Binary64.zero false).le x then some (x * Binary64.ofInt scale) else none

/-- The timing functions with a name. -/
def timingNames : List String :=
  ["ease", "ease-in", "ease-out", "ease-in-out", "linear", "step-start", "step-end"]

/-- The timing functions with arguments. -/
def timingFunctions : List String := ["cubic-bezier(", "steps(", "linear("]

/-- The directions. -/
def directions : List String := ["normal", "reverse", "alternate", "alternate-reverse"]

/-- The fill modes. -/
def fillModes : List String := ["none", "forwards", "backwards", "both"]

/-- The play states. -/
def playStates : List String := ["running", "paused"]

/-- Whether a word is an identifier. -/
def isIdent : List Char → Bool
  | [] => false
  | c :: cs => (c.isAlpha || c == '_' || c == '-') && (c :: cs).all isNameChar

/-- Whether a word is a timing function. -/
def isTiming (word : List Char) : Bool :=
  timingNames.contains (String.ofList word) ||
    timingFunctions.any fun start => startsWith start.toList word

end Shorthand

/-- How often an animation runs. -/
inductive Iterations where
  | infinite
  | count (n : Binary64)
  deriving DecidableEq, Repr

/-- What a word of a shorthand says. -/
inductive AnimationWord where
  | comma
  | time (ms : Binary64)
  | timing (text : String)
  | iterations (n : Iterations)
  | negativeCount
  | direction (text : String)
  | fillMode (text : String)
  | playState (text : String)
  | name (text : String)
  | unexpected (text : String)
  deriving DecidableEq, Repr

/-- What a word says; the first form that fits decides. -/
def AnimationWord.ofWord (word : List Char) : AnimationWord :=
  let text := String.ofList word
  if word = [','] then .comma
  else
    match Shorthand.time? word with
    | some ms => .time ms
    | none =>
      if Shorthand.isTiming word then .timing text
      else if text = "infinite" then .iterations .infinite
      else
        match Shorthand.number? word with
        -- A negative number is no name either, so it gets a reason of its own.
        | some n => if n.lt (.zero false) then .negativeCount else .iterations (.count n)
        | none =>
          if Shorthand.directions.contains text then .direction text
          else if Shorthand.fillModes.contains text then .fillMode text
          else if Shorthand.playStates.contains text then .playState text
          else if Shorthand.isIdent word then .name text
          else .unexpected text

/-! ## Animations -/

/-- An animation shorthand while its words are read. -/
structure AnimationParts where
  name : Option String := none
  duration : Option Binary64 := none
  delay : Option Binary64 := none
  timing : Option String := none
  iterations : Option Iterations := none
  direction : Option String := none
  fillMode : Option String := none
  playState : Option String := none
  deriving DecidableEq, Repr

/-- A parsed animation shorthand: the name of its keyframes, and what else it sets. -/
structure Animation where
  name : String
  duration : Option Binary64
  delay : Option Binary64
  timing : Option String
  iterations : Option Iterations
  direction : Option String
  fillMode : Option String
  playState : Option String
  deriving DecidableEq, Repr

/-- Sets a part that must not be set already. -/
def setOnce {α : Type} (slot : Option α) (value : α) (problem : String) :
    Except String (Option α) :=
  match slot with
  | none => .ok (some value)
  | some _ => .error problem

/-- Takes the next word; fails with the reason why the shorthand makes no sense. -/
def AnimationParts.add (parts : AnimationParts) : AnimationWord → Except String AnimationParts
  | .comma => .error "multiple animations in one shorthand"
  | .time ms =>
    -- The first time is the duration, the second one the delay.
    match parts.duration, parts.delay with
    | none, _ => .ok { parts with duration := some ms }
    | some _, none => .ok { parts with delay := some ms }
    | some _, some _ => .error "more than two time values"
  | .timing text => do
    return { parts with timing := ← setOnce parts.timing text "repeated timing function" }
  | .iterations n => do
    return { parts with iterations := ← setOnce parts.iterations n "repeated iteration count" }
  | .negativeCount => .error "negative iteration count"
  | .direction text => do
    return { parts with direction := ← setOnce parts.direction text "repeated direction" }
  | .fillMode text => do
    return { parts with fillMode := ← setOnce parts.fillMode text "repeated fill mode" }
  | .playState text => do
    return { parts with playState := ← setOnce parts.playState text "repeated play state" }
  | .name text => do
    return { parts with name := ← setOnce parts.name text "more than one keyframes name" }
  | .unexpected text => .error ("unexpected " ++ ticked text)

/-- Takes words in order. -/
def AnimationParts.addAll : AnimationParts → List (List Char) → Except String AnimationParts
  | parts, [] => .ok parts
  | parts, word :: rest => do
    let parts ← parts.add (.ofWord word)
    parts.addAll rest

/-- The animation of all words; the name of its keyframes must be among them. -/
def AnimationParts.finish (parts : AnimationParts) : Except String Animation :=
  match parts.name with
  | none => .error "no keyframes name"
  | some name =>
    .ok
      { name
        duration := parts.duration
        delay := parts.delay
        timing := parts.timing
        iterations := parts.iterations
        direction := parts.direction
        fillMode := parts.fillMode
        playState := parts.playState }

/-- Reads a shorthand, or tells why it makes no sense. -/
def Animation.read (cs : List Char) : Except String Animation :=
  match Shorthand.words? cs with
  | none => .error "unbalanced parentheses"
  | some words => do
    let parts ← AnimationParts.addAll {} words
    parts.finish

/-- Reads a shorthand. -/
def Animation.parse (shorthand : String) : Except ThemeError Animation :=
  match Animation.read shorthand.toList with
  | .ok animation => .ok animation
  | .error reason => .error (.malformedAnimation shorthand reason)

/-! ## Keyframes -/

/-- One offset of a keyframe selector, in percent. -/
def offset? (part : List Char) : Option Binary64 := do
  let part := trimBoth part
  if part = "from".toList then some (Binary64.ofInt 0)
  else if part = "to".toList then some (Binary64.ofInt 100)
  else
    let x ← Binary64.parse? (trimBoth (← dropEnd? ['%'] part))
    if (Binary64.zero false).le x && x.le (Binary64.ofInt 100) then some x else none

/-- The offsets of a keyframe selector, in percent and in order. -/
def parseOffsets (selector : String) : Except ThemeError (List Binary64) :=
  match (splitOn ',' selector.toList).mapM offset? with
  | some offsets => .ok offsets
  | none => .error (.malformedOffset selector)

/-- The steps of one `@keyframes` block: properties by offset selector. -/
structure Keyframes where
  steps : Table (Table Css.Value)

namespace Keyframes

/-- The declarations of a step. -/
def declarations (properties : Table Css.Value) : List (String × String) :=
  properties.entries.map fun (property, value) => (property, value.display)

/-- The block as a rule. -/
def toCss (frames : Keyframes) (name : String) : String :=
  "@keyframes " ++ name ++ " \x7b\n" ++
    String.join (frames.steps.entries.map fun (selector, properties) =>
      Css.rule 1 selector (declarations properties)) ++
    "\x7d\n"

/-- Checks one property of a step. -/
def checkProperty (step : FieldPath) (property : String) (value : Css.Value) : Diagnostics :=
  if !Css.isPropertyName property then
    .error (step.key property) (ticked property ++ " is not a CSS property name")
  else .when value.isEmpty (.error (step.key property) "empty property value")

/-- Checks one step of a block. -/
def checkStep (block : FieldPath) (selector : String) (properties : Table Css.Value) :
    Diagnostics :=
  let step := block.key selector
  (match parseOffsets selector with
  | .ok _ => .none
  | .error e => .error step e.message) ++
    .concat (properties.entries.map fun (property, value) => checkProperty step property value)

/-- Checks a block. -/
def diagnostics (frames : Keyframes) (block : FieldPath) : Diagnostics :=
  .when frames.steps.isEmpty (.warning block "keyframes block has no steps") ++
    .concat (frames.steps.entries.map fun (selector, properties) =>
      checkStep block selector properties)

/-- The block as JSON. -/
def toJson (frames : Keyframes) : Json :=
  .object (frames.steps.entries.map fun (selector, properties) =>
    (selector, .object (properties.entries.map fun (p, v) => (p, v.toJson))))

end Keyframes

/-- Blocks of keyframes by name. -/
structure KeyframeTable where
  blocks : Table Keyframes

/-- Checks every block. -/
def KeyframeTable.diagnostics (table : KeyframeTable) (field : FieldPath) : Diagnostics :=
  .concat (table.blocks.entries.map fun (name, frames) => frames.diagnostics (field.key name))

/-- Animation shorthands by name. -/
structure Animations where
  shorthands : Table String

/-- Checks one shorthand against the keyframes. -/
def Animations.check (keyframes : KeyframeTable) (entry : FieldPath) (shorthand : String) :
    Diagnostics :=
  match Animation.parse shorthand with
  | .error e => .error entry e.message
  | .ok animation =>
    .when (!keyframes.blocks.contains animation.name)
      (.errorWithHint entry
        ("animation uses keyframes " ++ ticked animation.name ++ " which are not defined")
        ("add [theme.extend.keyframes." ++ animation.name ++ "]")) ++
    .when animation.duration.isNone (.warning entry "no duration; the animation will not play")

/-- Checks every shorthand against the keyframes. -/
def Animations.diagnostics (animations : Animations) (field : FieldPath)
    (keyframes : KeyframeTable) : Diagnostics :=
  .concat (animations.shorthands.entries.map fun (name, shorthand) =>
    Animations.check keyframes (field.key name) shorthand)

end DocSite
