import DocSite.Glob.Pattern
import DocSite.Text.Utf8

/-!
# Matching paths

  A path is matched as a sequence of bytes. A set of positions in it is a list of
  flags, one for each byte and one for the end; a token leads from the positions
  where it may start to those where it may end. A pattern matches when its tokens
  lead from the start to the end.
-/

namespace DocSite.Glob

open DocSite.Text

/-! ## Sets of positions -/

/-- Positions one byte further, over bytes with a property. -/
def one (p : Nat → Bool) (bytes : List Nat) (starts : List Bool) : List Bool :=
  false :: List.zipWith (fun s b => s && p b) starts bytes

/-- Positions any number of bytes further, over bytes with a property; `carry` tells that the
front is reached from before. -/
def many (p : Nat → Bool) : (bytes : List Nat) → (carry : Bool) → List Bool → List Bool
  | _, _, [] => []
  | [], carry, s :: starts => (s || carry) :: many p [] false starts
  | b :: bytes, carry, s :: starts => (s || carry) :: many p bytes ((s || carry) && p b) starts

/-- The positions of either set. -/
def either (xs ys : List Bool) : List Bool := List.zipWith (· || ·) xs ys

/-- The byte of a slash. -/
def slash : Nat := 0x2f

/-- Positions behind one slash. -/
def overSlash (bytes : List Nat) (starts : List Bool) : List Bool := one (· == slash) bytes starts

/-- All positions from some start on. -/
def onward (bytes : List Nat) (starts : List Bool) : List Bool :=
  many (fun _ => true) bytes false starts

/-- Positions behind the bytes of a character. -/
def overChar (bytes : List Nat) (c : Char) (starts : List Bool) : List Bool :=
  (utf8Bytes c).foldl (fun starts b => one (· == b) bytes starts) starts

/-! ## Classes -/

/-- Whether a byte is in a range of characters. Of a character of several bytes, each byte is a
member of its own; the range itself spans from the last byte of its first character to the first
byte of its last. -/
def inRange (b : Nat) : Char × Char → Bool
  | (first, last) =>
    let low := utf8Bytes first
    let high := utf8Bytes last
    low.contains b || high.contains b ||
      (first != last && low.getLast?.any (· ≤ b) && high.head?.any (b ≤ ·))

/-- Whether a byte is in a class. -/
def inClass (negated : Bool) (ranges : List (Char × Char)) (b : Nat) : Bool :=
  ranges.any (inRange b) != negated

/-! ## Tokens -/

mutual

/-- Whether a token says nothing about a path: a choice of nothing but empty branches. -/
def Token.isVoid : Token → Bool
  | .choice branches => allVoid branches
  | _ => false

/-- Whether all tokens of a branch are void. -/
def isVoidBranch : List Token → Bool
  | [] => true
  | t :: rest => t.isVoid && isVoidBranch rest

/-- Whether all branches are void. -/
def allVoid : List (List Token) → Bool
  | [] => true
  | branch :: rest => isVoidBranch branch && allVoid rest

end

mutual

/-- Where a token may end, given where it may start. -/
def Token.step (bytes : List Nat) (starts : List Bool) : Token → List Bool
  | .literal c => overChar bytes c starts
  | .any => one (· != slash) bytes starts
  | .run => many (· != slash) bytes false starts
  | .leading => either starts (overSlash bytes (onward bytes starts))
  | .trailing => onward bytes (overSlash bytes starts)
  | .between =>
    let behind := overSlash bytes starts
    either behind (overSlash bytes (onward bytes behind))
  | .byteClass negated ranges => one (inClass negated ranges) bytes starts
  | .choice branches =>
    if allVoid branches then starts else stepBranches bytes starts branches

/-- Where a sequence of tokens may end. -/
def stepAll (bytes : List Nat) (starts : List Bool) : List Token → List Bool
  | [] => starts
  | t :: rest => stepAll bytes (t.step bytes starts) rest

/-- Where one of several branches may end; void branches count for nothing. -/
def stepBranches (bytes : List Nat) (starts : List Bool) : List (List Token) → List Bool
  | [] => starts.map fun _ => false
  | branch :: rest =>
    let others := stepBranches bytes starts rest
    -- A branch that says nothing is not an empty match: it is not there.
    if isVoidBranch branch then others else either (stepAll bytes starts branch) others

end

/-! ## Patterns -/

/-- Whether a token is a character that stands for itself. -/
def Token.isLiteral : Token → Bool
  | .literal _ => true
  | _ => false

/-- Whether a token is a given character. -/
def Token.isChar (c : Char) : Token → Bool
  | .literal d => c == d
  | _ => false

/-- Whether a pattern is decided by the name of a file alone, and that name has to end in a dot:
such a pattern is no text of several components or without wildcards. -/
def wantsDottedName (tokens : List Token) : Bool :=
  tokens.getLast?.any (Token.isChar '.') &&
    match tokens with
    | .leading :: rest => !(rest.all Token.isLiteral && rest.any (Token.isChar '/'))
    | tokens => !tokens.all Token.isLiteral

/-- Whether a path ends in the directory above, which is no name of a file. -/
def endsInUp (path : List Char) : Bool := path.reverse.takeWhile (· != '/') = ['.', '.']

/-- Whether a pattern matches a path. Two stars alone match every path. -/
def isMatch (tokens : List Token) (path : String) : Bool :=
  match tokens with
  -- Nothing is asked of the path, not even that it has a name.
  | [.leading] => true
  | tokens =>
    let bytes := utf8 path.toList
    let start := true :: bytes.map fun _ => false
    !(wantsDottedName tokens && endsInUp path.toList) &&
      (stepAll bytes start tokens).getLast?.getD false

end DocSite.Glob
