import DocSite.FileTree
import DocSite.Path

/-!
# Disks

  A tree of files with a current directory. Paths are followed component by
  component, as the operating system does it: every component but the last must be
  a directory that exists, and `..` leads to the directory above.
-/

namespace DocSite

open DocSite.Text

/-! ## Errors -/

/-- Why the operating system refuses an operation. -/
inductive OsError where
  | notFound
  | exists
  | notDirectory
  | isDirectory
  | nameTooLong
  | nulInName
  | noAncestor
  deriving DecidableEq, Repr

/-- The text of an error. -/
def OsError.message : OsError → String
  | .notFound => "No such file or directory (os error 2)"
  | .exists => "File exists (os error 17)"
  | .notDirectory => "Not a directory (os error 20)"
  | .isDirectory => "Is a directory (os error 21)"
  | .nameTooLong => "File name too long (os error 36)"
  | .nulInName => "file name contained an unexpected NUL byte"
  | .noAncestor => "failed to create whole tree"

/-- A tree of files with a current directory. -/
structure Disk where
  tree : FileTree
  cwd : Path

namespace Disk

/-! ## Following paths -/

/-- The most bytes of a name. -/
def longestName : Nat := 255

/-- The most bytes of a path. -/
def longestPath : Nat := 4095

/-- A name as it is looked up in a directory. -/
def checkName (name : String) : Except OsError String :=
  if longestName < name.utf8ByteSize then .error .nameTooLong else .ok name

/-- Follows pieces from a place. -/
def follow (tree : FileTree) : (place : List String) → List (List Char) →
    Except OsError (List String)
  | place, [] => .ok place
  | place, piece :: rest =>
    match tree.get? place with
    | none => .error .notFound
    | some (.file _) => .error .notDirectory
    | some (.dir entries) =>
      if piece.isEmpty || piece = ['.'] then follow tree place rest
      else if piece = ['.', '.'] then follow tree place.dropLast rest
      else
        match checkName (String.ofList piece) with
        | .error e => .error e
        | .ok name =>
          match Table.lookup name entries with
          | none => .error .notFound
          | some _ => follow tree (place ++ [name]) rest

/-- The pieces of a path from the root of the disk. -/
def pieces (d : Disk) (p : Path) : Except OsError (List (List Char)) :=
  if p.text.isEmpty then .error .notFound
  else if hasChar '\u0000' p.text then .error .nulInName
  else if longestPath < p.text.utf8ByteSize then .error .nameTooLong
  else .ok (d.cwd.join p).pieces

/-- The place of a path. -/
def locate (d : Disk) (p : Path) : Except OsError (List String) := do
  follow d.tree [] (← d.pieces p)

/-- What stands at a path. -/
def node? (d : Disk) (p : Path) : Option FileTree := do
  d.tree.get? (← (d.locate p).toOption)

/-- Whether something stands at a path. -/
def exists? (d : Disk) (p : Path) : Bool := (d.node? p).isSome

/-- Whether a file stands at a path. -/
def isFile (d : Disk) (p : Path) : Bool := (d.node? p).any fun node => !node.isDir

/-- Whether a directory stands at a path. -/
def isDir (d : Disk) (p : Path) : Bool := (d.node? p).any FileTree.isDir

/-- The place and the text of the file at a path. -/
def fileAt (d : Disk) (p : Path) : Except OsError (List String × String) := do
  let place ← d.locate p
  match d.tree.get? place with
  | some (.file text) => .ok (place, text)
  | some (.dir _) => .error .isDirectory
  | none => .error .notFound

/-- The text of the file at a path. -/
def read (d : Disk) (p : Path) : Except OsError String := (d.fileAt p).map Prod.snd

theorem fileAt_eq_ok_iff {d : Disk} {p : Path} {place : List String} {text : String} :
    d.fileAt p = .ok (place, text) ↔
      d.locate p = .ok place ∧ d.tree.get? place = some (.file text) := by
  rw [fileAt]
  cases d.locate p with
  | error e => simp [bind, Except.bind]
  | ok found =>
    simp only [bind, Except.bind, Except.ok.injEq]
    -- What stands at the place is a file, a directory or nothing.
    split
    · rename_i found' hfound
      constructor
      · intro h
        obtain ⟨rfl, rfl⟩ := Prod.mk.inj (Except.ok.inj h)
        exact ⟨rfl, hfound⟩
      · rintro ⟨rfl, h⟩
        rw [hfound] at h
        obtain ⟨rfl⟩ := Option.some.inj h
        rfl
    · rename_i entries hfound
      constructor
      · intro h
        simp at h
      · rintro ⟨rfl, h⟩
        simp [hfound] at h
    · rename_i hnone
      constructor
      · intro h
        simp at h
      · rintro ⟨rfl, h⟩
        simp [hnone] at h

/-! ## Changing files -/

/-- Where a new entry would go. -/
inductive Target where
  /-- No new entry: the path ends in the root or in dots. -/
  | fixed
  /-- A name in a directory; `slash` tells that a slash follows it. -/
  | entry (parent : List String) (name : String) (slash : Bool)

/-- Where the last component of a path would go. -/
def target (d : Disk) (p : Path) : Except OsError Target := do
  let reversed := (← d.pieces p).reverse
  let trimmed := reversed.dropWhile List.isEmpty
  match trimmed with
  | [] => return .fixed
  | last :: before =>
    let parent ← follow d.tree [] before.reverse
    if last = ['.'] || last = ['.', '.'] then return .fixed
    else
      match d.tree.get? parent with
      | some (.dir _) =>
        return .entry parent (String.ofList last) (trimmed.length < reversed.length)
      | some (.file _) => .error .notDirectory
      | none => .error .notFound

/-- The disk with a node at a place. -/
def put (d : Disk) (place : List String) (node : FileTree) : Disk :=
  { d with tree := d.tree.set place node }

/-- Writes a file; it is made if it is missing. -/
def write (d : Disk) (p : Path) (text : String) : Except OsError Disk := do
  match ← d.target p with
  | .fixed => .error .isDirectory
  | .entry parent name slash =>
    -- A slash at the end says that a directory is meant.
    if slash then .error .isDirectory
    else
      let name ← checkName name
      match d.tree.get? (parent ++ [name]) with
      | some (.dir _) => .error .isDirectory
      | _ => .ok (d.put (parent ++ [name]) (.file text))

/-- Makes one directory. -/
def makeDir (d : Disk) (p : Path) : Except OsError Disk := do
  match ← d.target p with
  | .fixed => .error .exists
  | .entry parent name _ =>
    let name ← checkName name
    match d.tree.get? (parent ++ [name]) with
    | some _ => .error .exists
    | none => .ok (d.put (parent ++ [name]) .empty)

/-- Makes the first directory of a list; if there is nothing to put it in, the rest of the list is
made before. Directories that were made stay, also when a later one fails. -/
def makeDirsAlong (d : Disk) : List Path → Disk × Except OsError Unit
  | [] => (d, .error .noAncestor)
  | p :: above =>
    if p.components.isEmpty then (d, .ok ())
    else
      match d.makeDir p with
      | .ok d => (d, .ok ())
      -- The directory above is missing: it is made first, then this one is tried again.
      | .error .notFound =>
        match d.makeDirsAlong above with
        | (d, .error e) => (d, .error e)
        | (d, .ok ()) =>
          match d.makeDir p with
          | .ok d => (d, .ok ())
          | .error e => (d, if d.isDir p then .ok () else .error e)
      | .error e => (d, if d.isDir p then .ok () else .error e)

/-- Makes a directory and those above it that are missing. -/
def makeDirs (d : Disk) (p : Path) : Disk × Except OsError Unit := d.makeDirsAlong p.ancestors

/-- Takes a file away. -/
def remove (d : Disk) (p : Path) : Except OsError Disk := do
  let place ← d.locate p
  match d.tree.get? place with
  | some (.file _) => .ok { d with tree := d.tree.erase place }
  | some (.dir _) => .error .isDirectory
  | none => .error .notFound

/-! ## Walking -/

/-- The path of a place below a directory. -/
def relativePath (place : List String) : Path := ⟨joinText "/" place⟩

/-- The files below a directory that a walk finds, relative to it. A walk does not enter a pruned
directory even where it would start, but it starts in a hidden one. -/
def walk (d : Disk) (root : Path) : List Path :=
  match d.node? root with
  | some node => if root.fileName?.any node.isPruned then [] else node.walk.map relativePath
  | none => []

/-- The path of the first file with a name in a directory or one above it. An absolute name is
looked up as it is. -/
def findUpward (d : Disk) (start name : Path) : Option Path :=
  if name.isAbsolute then if d.exists? name then some name else none
  else (start.ancestors.map fun dir => dir.join name).find? d.isFile

end Disk

end DocSite
