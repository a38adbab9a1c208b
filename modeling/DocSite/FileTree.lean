import DocSite.Table

/-!
# Trees of files

  The files and directories below some directory. A place in a tree is the list of
  the names that lead to it; the empty list is the tree itself.
-/

namespace DocSite

/-- A file with its text, or a directory with named entries. -/
inductive FileTree where
  | file (text : String)
  | dir (entries : List (String × FileTree))
  deriving Inhabited

namespace FileTree

/-- The directory without entries. -/
def empty : FileTree := .dir []

/-- Whether the node is a directory. -/
def isDir : FileTree → Bool
  | .dir _ => true
  | .file _ => false

/-! ## Places -/

/-- What stands at a place. -/
def get? : List String → FileTree → Option FileTree
  | [], tree => some tree
  | _ :: _, .file _ => none
  | name :: rest, .dir entries => (Table.lookup name entries).bind (get? rest)

/-- Puts a node at a place. Directories on the way are made if they are missing; a file on the
way stays as it is. -/
def set : (tree : FileTree) → List String → (new : FileTree) → FileTree
  | _, [], new => new
  | .file text, _ :: _, _ => .file text
  | .dir entries, name :: rest, new =>
    .dir (Table.put name (set ((Table.lookup name entries).getD empty) rest new) entries)

/-- Takes the node at a place away. -/
def erase : List String → FileTree → FileTree
  | [], tree => tree
  | _ :: _, .file text => .file text
  | [name], .dir entries => .dir (entries.filter fun (key, _) => key != name)
  | name :: rest, .dir entries =>
    match Table.lookup name entries with
    | some child => .dir (Table.put name (erase rest child) entries)
    | none => .dir entries

/-! ## Files -/

mutual

/-- All files with their places. -/
def files : FileTree → List (List String × String)
  | .file text => [([], text)]
  | .dir entries => filesOf entries

/-- All files of named entries. -/
def filesOf : List (String × FileTree) → List (List String × String)
  | [] => []
  | (name, node) :: rest =>
    (node.files.map fun (place, text) => (name :: place, text)) ++ filesOf rest

end

theorem mem_filesOf {entries : List (String × FileTree)} {name : String} {node : FileTree}
    (h : Table.lookup name entries = some node) {place : List String} {text : String}
    (hfile : (place, text) ∈ node.files) : (name :: place, text) ∈ filesOf entries := by
  induction entries with
  | nil => simp [Table.lookup] at h
  | cons e rest ih =>
    obtain ⟨key, first⟩ := e
    rw [Table.lookup] at h
    rw [filesOf, List.mem_append, List.mem_map]
    split at h
    · rename_i hkey
      obtain rfl := Option.some.inj h
      exact .inl ⟨(place, text), hfile, by rw [hkey]⟩
    · exact .inr (ih h)

/-- A file that stands at a place is among all files. -/
theorem mem_files_of_get? {place : List String} {tree : FileTree} {text : String}
    (h : tree.get? place = some (.file text)) : (place, text) ∈ tree.files := by
  induction place generalizing tree with
  | nil =>
    obtain rfl := Option.some.inj h
    simp [files]
  | cons name rest ih =>
    cases tree with
    | file _ => simp [get?] at h
    | dir entries =>
      obtain ⟨node, hnode, hrest⟩ := Option.bind_eq_some_iff.1 h
      exact mem_filesOf hnode (ih hrest)

/-- Directories that no walk enters. -/
def prunedDirs : List String := ["node_modules"]

/-- Whether a node with a name is a directory that no walk enters. -/
def isPruned (node : FileTree) (name : String) : Bool := node.isDir && prunedDirs.contains name

/-- Whether a name is hidden. -/
def isHidden (name : String) : Bool := name.toList.head? == some '.'

mutual

/-- The places of the files that a walk finds: hidden entries and pruned directories are left
out. -/
def walk : FileTree → List (List String)
  | .file _ => [[]]
  | .dir entries => walkOf entries

/-- The places of the files that a walk finds in named entries. -/
def walkOf : List (String × FileTree) → List (List String)
  | [] => []
  | (name, node) :: rest =>
    if isHidden name || node.isPruned name then walkOf rest
    else node.walk.map (name :: ·) ++ walkOf rest

end

end FileTree

end DocSite
