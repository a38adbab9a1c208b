/-!
# Glob patterns

  A glob describes paths: `?` stands for one byte, `*` for any run of bytes, both
  within one component; `**` as a whole component stands for any number of
  components; `[…]` is a class, `{…}` a choice, and a backslash takes the next
  character as it is.

  Reading keeps one list of tokens for the branch that is open, and one frame for
  each group around it.
-/

namespace DocSite.Glob

/-! ## Tokens -/

/-- A piece of a pattern. -/
inductive Token where
  /-- A character that stands for itself. -/
  | literal (c : Char)
  /-- One byte, not a slash. -/
  | any
  /-- Any run of bytes without a slash. -/
  | run
  /-- Any number of components at the front. -/
  | leading
  /-- A slash and all that follows. -/
  | trailing
  /-- Any number of components between two slashes. -/
  | between
  /-- One byte in, or not in, a set of ranges. -/
  | byteClass (negated : Bool) (ranges : List (Char × Char))
  /-- One of several branches. -/
  | choice (branches : List (List Token))
  deriving Inhabited

/-! ## Errors -/

/-- Why a text is not a pattern. -/
inductive PatternError where
  | unclosedClass
  | invalidRange (first last : Char)
  | unopenedChoice
  | unclosedChoice
  | danglingEscape
  deriving DecidableEq, Repr

/-- The text of an error. -/
def PatternError.message : PatternError → String
  | .unclosedClass => "unclosed character class; missing ']'"
  | .invalidRange first last =>
    "invalid range; '" ++ first.toString ++ "' > '" ++ last.toString ++ "'"
  | .unopenedChoice =>
    "unopened alternate group; missing '\x7b' (maybe escape '\x7d' with '[\x7d]'?)"
  | .unclosedChoice =>
    "unclosed alternate group; missing '\x7d' (maybe escape '\x7b' with '[\x7b]'?)"
  | .danglingEscape => "dangling '\\'"

/-! ## Classes -/

/-- Extends the last range of a list, which is kept in reverse. -/
def extendRange (c : Char) : List (Char × Char) → Except PatternError (List (Char × Char))
  | [] => .ok [(c, c)]
  | (first, _) :: rest =>
    if c < first then .error (.invalidRange first c) else .ok ((first, c) :: rest)

/-- The ranges of a class up to its bracket, and what follows it. `opening` tells the first
character, which stands for itself, `waiting` that a hyphen waits for the end of a range. -/
def classRanges : (opening waiting : Bool) → (ranges : List (Char × Char)) → List Char →
    Except PatternError (List (Char × Char) × List Char)
  | _, _, _, [] => .error .unclosedClass
  | opening, waiting, ranges, c :: cs =>
    if c == ']' && !opening then
      .ok ((if waiting then ('-', '-') :: ranges else ranges).reverse, cs)
    else if waiting then do
      classRanges false false (← extendRange c ranges) cs
    else if c == '-' && !opening then classRanges false true ranges cs
    else classRanges false false ((c, c) :: ranges) cs

theorem length_classRanges {opening waiting : Bool} {ranges found : List (Char × Char)}
    {cs rest : List Char} (h : classRanges opening waiting ranges cs = .ok (found, rest)) :
    rest.length < cs.length := by
  induction cs generalizing opening waiting ranges with
  | nil => simp [classRanges] at h
  | cons c cs ih =>
    rw [classRanges] at h
    split at h
    · simp only [Except.ok.injEq, Prod.mk.injEq] at h
      simp [h.2]
    · split at h
      · cases he : extendRange c ranges with
        | error e => simp [he, bind, Except.bind] at h
        | ok r =>
          simp only [he, bind, Except.bind] at h
          have := ih h
          simp only [List.length_cons]; omega
      · split at h
        · have := ih h
          simp only [List.length_cons]; omega
        · have := ih h
          simp only [List.length_cons]; omega

/-- Whether a class is negated, and its text without the mark of that. -/
def takeNegation : List Char → Bool × List Char
  | '!' :: rest => (true, rest)
  | '^' :: rest => (true, rest)
  | cs => (false, cs)

theorem length_takeNegation (cs : List Char) : (takeNegation cs).2.length ≤ cs.length := by
  unfold takeNegation; split <;> simp

/-! ## Reading -/

/-- An open group: the tokens before it and its finished branches, both in reverse. -/
structure Frame where
  outer : List Token
  branches : List (List Token)

/-- A pattern while it is read: the open groups, the innermost first, and the tokens of the open
branch in reverse. -/
structure Draft where
  frames : List Frame := []
  tokens : List Token := []

namespace Draft

/-- Adds a token to the open branch. -/
def push (d : Draft) (t : Token) : Draft := { d with tokens := t :: d.tokens }

/-- Opens a group. -/
def openGroup (d : Draft) : Draft := { frames := ⟨d.tokens, []⟩ :: d.frames, tokens := [] }

/-- Closes the innermost group. -/
def closeGroup (d : Draft) : Except PatternError Draft :=
  match d.frames with
  | [] => .error .unopenedChoice
  | frame :: frames =>
    let branches := (d.tokens.reverse :: frame.branches).reverse
    .ok { frames, tokens := .choice branches :: frame.outer }

/-- A comma: the next branch of the innermost group, or itself outside groups. -/
def comma (d : Draft) : Draft :=
  match d.frames with
  | [] => d.push (.literal ',')
  | frame :: frames =>
    { frames := { frame with branches := d.tokens.reverse :: frame.branches } :: frames
      tokens := [] }

/-- Two stars that are no component of their own. -/
def twoRuns (d : Draft) : Draft := (d.push .run).push .run

/-- Two stars behind a slash that end a branch or a component: they take the token before them
in, unless that stands for all components already. -/
def components (d : Draft) (last : Bool) : Draft :=
  let added : Token := if last then .trailing else .between
  match d.tokens with
  | [] => d.push added
  | .leading :: _ => d
  | .trailing :: _ => d
  | _ :: before => { d with tokens := added :: before }

/-- Whether two stars behind this character can be a component of their own. -/
def startsComponent (d : Draft) (before : Option Char) : Bool :=
  before == some '/' || (!d.frames.isEmpty && (before == some ',' || before == some '\x7b'))

/-- Takes two stars in, given the characters around them. The flag tells that the slash behind
them is taken too. -/
def doubleStar (d : Draft) (before after : Option Char) : Draft × Bool :=
  let atSlash := after == some '/'
  let ends := after == none || (!d.frames.isEmpty && (after == some ',' || after == some '\x7d'))
  -- At the front of a branch nothing has to be taken in.
  if d.tokens.isEmpty then
    if after == none || atSlash then (d.push .leading, atSlash) else (d.twoRuns, false)
  else if !d.startsComponent before then (d.twoRuns, false)
  else if ends then (d.components true, false)
  else if atSlash then (d.components false, true)
  else (d.twoRuns, false)

/-- The tokens of a pattern that has been read to its end. -/
def finish (d : Draft) : Except PatternError (List Token) :=
  if d.frames.isEmpty then .ok d.tokens.reverse else .error .unclosedChoice

end Draft

/-- Reads what remains of a pattern; `before` is the character in front of it. -/
def readTokens (d : Draft) (before : Option Char) (cs : List Char) :
    Except PatternError (List Token) :=
  match cs with
  | [] => d.finish
  | '?' :: rest => readTokens (d.push .any) (some '?') rest
  | '*' :: '*' :: rest =>
    let (d, slash) := d.doubleStar before rest.head?
    match slash, rest with
    | true, c :: rest => readTokens d (some c) rest
    | _, rest => readTokens d (some '*') rest
  | '*' :: rest => readTokens (d.push .run) (some '*') rest
  | '[' :: rest =>
    let negated := (takeNegation rest).1
    match _h : classRanges true false [] (takeNegation rest).2 with
    | .error e => .error e
    | .ok (ranges, after) => readTokens (d.push (.byteClass negated ranges)) (some ']') after
  | '\x7b' :: rest => readTokens d.openGroup (some '\x7b') rest
  | '\x7d' :: rest => do readTokens (← d.closeGroup) (some '\x7d') rest
  | ',' :: rest => readTokens d.comma (some ',') rest
  | ['\\'] => .error .danglingEscape
  | '\\' :: c :: rest => readTokens (d.push (.literal c)) (some c) rest
  | c :: rest => readTokens (d.push (.literal c)) (some c) rest
termination_by cs.length
decreasing_by
  all_goals simp_wf
  all_goals try omega
  have := length_classRanges _h
  have := length_takeNegation rest
  omega

/-- The tokens of a pattern. -/
def parse (pattern : String) : Except PatternError (List Token) :=
  readTokens {} none pattern.toList

end DocSite.Glob
