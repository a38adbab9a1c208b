import DocSite.Text.Split

/-!
# Paths

  A path is a text of pieces between slashes. What it means is its list of
  components: empty pieces and dots say nothing, except a dot at the front of a
  relative path. Comparison and prefixes go by components; the text of a path is
  kept as it was written.
-/

namespace DocSite

open DocSite.Text

/-- A file path as it is written. -/
structure Path where
  text : String
  deriving DecidableEq, Repr

/-! ## Components -/

/-- A step of a path. -/
inductive Component where
  /-- The root of the file system. -/
  | root
  /-- The directory itself, at the front of a relative path. -/
  | here
  /-- The directory above. -/
  | up
  /-- An entry of the directory. -/
  | name (text : String)
  deriving DecidableEq, Repr

namespace Component

/-- The component that a piece stands for, if it says anything. -/
def ofPiece? (piece : List Char) : Option Component :=
  if piece.isEmpty || piece = ['.'] then none
  else if piece = ['.', '.'] then some .up
  else some (.name (String.ofList piece))

/-- The order of the kinds of components. -/
def rank : Component → Nat
  | .root => 0
  | .here => 1
  | .up => 2
  | .name _ => 3

/-- Strict order: by kind, and names by their characters. -/
def less : Component → Component → Bool
  | .name a, .name b => a < b
  | a, b => a.rank < b.rank

end Component

namespace Path

/-- Whether the path starts at the root. -/
def isAbsolute (p : Path) : Bool := p.text.toList.head? == some '/'

/-- The pieces between slashes, without the empty one before the root. -/
def pieces (p : Path) : List (List Char) :=
  if p.isAbsolute then splitOn '/' (p.text.toList.drop 1) else splitOn '/' p.text.toList

/-- The components of the pieces behind the first one. -/
def componentsOf (pieces : List (List Char)) : List Component :=
  pieces.filterMap Component.ofPiece?

/-- What the path means. -/
def components (p : Path) : List Component :=
  if p.isAbsolute then .root :: componentsOf p.pieces
  else
    match p.pieces with
    | ['.'] :: rest => .here :: componentsOf rest
    | pieces => componentsOf pieces

/-! ## Order and prefixes -/

/-- Strict order of component lists: the first difference decides, a prefix comes first. -/
def componentsLess : List Component → List Component → Bool
  | [], [] => false
  | [], _ :: _ => true
  | _ :: _, [] => false
  | a :: as, b :: bs => a.less b || (a == b && componentsLess as bs)

/-- Strict order of paths by their components. -/
def less (p q : Path) : Bool := componentsLess p.components q.components

/-- Whether a path lies at or below another. -/
def startsWith (p start : Path) : Bool := start.components.isPrefixOf p.components

/-! ## Building -/

/-- A path below another. An absolute path replaces the one before it. -/
def join (p q : Path) : Path :=
  if q.isAbsolute then q
  else if p.text.isEmpty || p.text.toList.getLast? == some '/' then ⟨p.text ++ q.text⟩
  else ⟨p.text ++ "/" ++ q.text⟩

/-- The path of pieces. -/
def ofPieces (absolute : Bool) (pieces : List (List Char)) : Path :=
  ⟨String.ofList ((if absolute then ['/'] else []) ++ joinWith ['/'] pieces)⟩

/-! ## Taking apart -/

/-- Whether a piece, with its index, says nothing. -/
def isMute (absolute : Bool) : List Char × Nat → Bool
  | (piece, index) => piece.isEmpty || (piece = ['.'] && (absolute || index != 0))

/-- The pieces with their indices, the last first. -/
def reversedPieces (p : Path) : List (List Char × Nat) := p.pieces.zipIdx.reverse

/-- The path of the directory that holds the last component; the text in front of it is kept. -/
def parent? (p : Path) : Option Path :=
  match p.reversedPieces.dropWhile (isMute p.isAbsolute) with
  | [] => none
  -- Slashes and dots in front of the last component go with it.
  | _ :: before =>
    some (ofPieces p.isAbsolute
      ((before.dropWhile (isMute p.isAbsolute)).reverse.map Prod.fst))

/-- The last component, if it is a name. -/
def fileName? (p : Path) : Option String :=
  match p.components.getLast? with
  | some (.name s) => some s
  | _ => none

/-- The last component on its own, or the whole path if that is no name. -/
def shortName (p : Path) : String := p.fileName?.getD p.text

/-- What follows the last dot of the file name, unless that starts the name. -/
def extension? (p : Path) : Option String := do
  let name ← p.fileName?
  let (after, before) := name.toList.reverse.span (· != '.')
  if before.length ≤ 1 then none else some (String.ofList after.reverse)

/-- The path and those above it, with `room` for so many. -/
def ancestorsWithin : (room : Nat) → Path → List Path
  | 0, _ => []
  | room + 1, p =>
    match p.parent? with
    | none => [p]
    | some above => p :: ancestorsWithin room above

/-- The path and those above it, the nearest first. -/
def ancestors (p : Path) : List Path := ancestorsWithin (p.pieces.length + 1) p

/-- A path without a dot at its front. -/
def withoutHere (p : Path) : Path :=
  if p.components.head? == some .here then
    let rest := (p.pieces.drop 1).zipIdx.dropWhile (isMute true)
    ofPieces false ((rest.reverse.dropWhile (isMute true)).reverse.map Prod.fst)
  else p

end Path

end DocSite
