import DocSite.Url.Normal

/-!
# Joiners in host names

  Two characters without a form of their own tell the letters around them to join
  or to stay apart. A host name may hold one only where it shows: after a mark that
  suppresses a vowel, and the one that separates also between two letters that would
  be written as one stroke without it.
-/

namespace DocSite.Url.Domain

/-- How a character is tied to its neighbours in cursive writing. -/
inductive Joining where
  /-- It is not tied to them. -/
  | none
  /-- It is tied to the character after it. -/
  | next
  /-- It is tied to the character before it. -/
  | previous
  | both
  /-- A mark that its neighbours are tied across. -/
  | mark
  deriving DecidableEq, Repr

namespace Joining

/-! ## Characters -/

/-- The table of joinings. -/
def table : List Entry := entries DomainData.joinings

/-- The joining that a number of the table stands for. -/
def ofNumber : Nat → Joining
  | 1 => .next
  | 2 => .previous
  | 3 => .both
  | 4 => .mark
  | _ => .none

/-- The joining of a code point. -/
def ofCode (n : Nat) : Joining :=
  ofNumber (((table.find? (·.holds n)).bind (·.image.head?)).getD 0)

/-- Whether a character is tied to the one after it. -/
def joinsNext (j : Joining) : Bool := j == .next || j == .both

/-- Whether a character is tied to the one before it. -/
def joinsPrevious (j : Joining) : Bool := j == .previous || j == .both

/-! ## Places -/

/-- The character that does not join its neighbours. -/
def separator : Nat := 0x200c

/-- The character that joins its neighbours. -/
def connector : Nat := 0x200d

/-- Whether a character is one of the two joiners. -/
def isJoiner (n : Nat) : Bool := n == separator || n == connector

/-- Whether the first character of a text that is no mark joins as asked. -/
def reaches (asked : Joining → Bool) (codes : List Nat) : Bool :=
  ((codes.map ofCode).find? (· != .mark)).any asked

/-- Whether a joiner may stand between two texts; the one before it is reversed. -/
def mayStand (before : List Nat) (joiner : Nat) (after : List Nat) : Bool :=
  match before with
  | [] => false
  | last :: _ =>
    combiningClass last == 9 ||
      (joiner == separator && reaches joinsNext before && reaches joinsPrevious after)

/-- Whether all joiners of a text may stand where they do, after a text that is reversed. -/
def allFit (before : List Nat) : List Nat → Bool
  | [] => true
  | n :: rest => (!isJoiner n || mayStand before n rest) && allFit (n :: before) rest

end Joining

end DocSite.Url.Domain
