import DocSite.FileTree
import DocSite.Proofs.Table

/-!
# Places of a tree

  A tree of files is seen through its places: at each of them stands a file with its
  text, a directory, or nothing. Putting a node into a directory changes what stands
  at one place and nothing else, provided that no directory stood there before.
-/

namespace DocSite.FileTree

/-- What stands at a place, without what a directory holds. -/
inductive Entry where
  | file (text : String)
  | dir
  deriving DecidableEq, Repr

/-- A node as an entry. -/
def entry : FileTree → Entry
  | .file text => .file text
  | .dir _ => .dir

/-- What stands at a place of a tree. -/
def entryAt (tree : FileTree) (place : List String) : Option Entry := (tree.get? place).map entry

theorem entryAt_eq_file_iff {tree : FileTree} {place : List String} {text : String} :
    tree.entryAt place = some (.file text) ↔ tree.get? place = some (.file text) := by
  rw [entryAt]
  cases tree.get? place with
  | none => simp
  | some node => cases node <;> simp [entry]

theorem entryAt_eq_dir_iff {tree : FileTree} {place : List String} :
    tree.entryAt place = some .dir ↔ ∃ entries, tree.get? place = some (.dir entries) := by
  rw [entryAt]
  cases tree.get? place with
  | none => simp
  | some node => cases node <;> simp [entry]

/-! ## Below a place -/

/-- A place is found step by step. -/
theorem get?_append (tree : FileTree) (place rest : List String) :
    tree.get? (place ++ rest) = (tree.get? place).bind (get? rest) := by
  induction place generalizing tree with
  | nil => rfl
  | cons name place ih =>
    cases tree with
    | file text => rfl
    | dir entries =>
      rw [List.cons_append, get?, get?, Option.bind_assoc]
      apply Option.bind_congr
      intro node _
      exact ih node

/-- The entries of a directory stand one name below it. -/
theorem get?_concat {tree : FileTree} {place : List String} {entries : List (String × FileTree)}
    (h : tree.get? place = some (.dir entries)) (name : String) :
    tree.get? (place ++ [name]) = Table.lookup name entries := by
  rw [get?_append, h]
  simp [get?]

/-- Below a place without a directory stands nothing. -/
theorem entryAt_below {tree : FileTree} {place : List String}
    (h : tree.entryAt place ≠ some .dir) (name : String) (rest : List String) :
    tree.entryAt (place ++ name :: rest) = none := by
  rw [entryAt, get?_append]
  cases hnode : tree.get? place with
  | none => rfl
  | some node =>
    cases node with
    | file text => rfl
    | dir entries => exact absurd (entryAt_eq_dir_iff.2 ⟨entries, hnode⟩) h

/-- A node with nothing below it: a file, or an empty directory. -/
def Bare (node : FileTree) : Prop := ∀ name rest, node.entryAt (name :: rest) = none

theorem bare_file (text : String) : Bare (.file text) := by
  intro name rest
  rfl

theorem bare_empty : Bare empty := by
  intro name rest
  rfl

/-! ## Putting a node at a place -/

/-- Below an entry that is put into a directory stands what stands below the new node. -/
theorem entryAt_put (entries : List (String × FileTree)) (name first : String)
    (node : FileTree) (rest : List String) :
    entryAt (.dir (Table.put name node entries)) (first :: rest) =
      if first = name then node.entryAt rest else entryAt (.dir entries) (first :: rest) := by
  rw [entryAt, get?, Table.lookup_put]
  by_cases hname : first = name
  · rw [if_pos hname.symm, if_pos hname]
    rfl
  · rw [if_neg (Ne.symm hname), if_neg hname]
    rfl

/-- What is put into a directory stands there, and all other places are as before, unless a
directory was replaced. -/
theorem entryAt_set {tree new : FileTree} {parent : List String} {name : String}
    (hparent : tree.entryAt parent = some .dir)
    (hfree : tree.entryAt (parent ++ [name]) ≠ some .dir) (hbare : Bare new) (place : List String) :
    (tree.set (parent ++ [name]) new).entryAt place =
      if place = parent ++ [name] then some new.entry else tree.entryAt place := by
  -- Along the way to the parent, only the entry that leads there is replaced.
  induction parent generalizing tree place with
  | nil =>
    cases tree with
    | file text => simp [entryAt, get?, entry] at hparent
    | dir entries =>
      cases place with
      | nil => simp [entryAt, get?, set, entry]
      | cons first rest =>
        rw [List.nil_append, set, set, entryAt_put]
        by_cases hname : first = name
        · subst hname
          cases rest with
          | nil => simp [entryAt, get?]
          | cons next rest =>
            -- Nothing stood below the place, and nothing stands below the new node.
            have hbelow := entryAt_below hfree next rest
            simpa [hbare next rest] using hbelow.symm
        · simp [hname]
  | cons above parent ih =>
    cases tree with
    | file text => simp [entryAt, get?] at hparent
    | dir entries =>
      cases place with
      | nil => simp [entryAt, get?, set, entry]
      | cons first rest =>
        obtain ⟨nodes, hnodes⟩ := entryAt_eq_dir_iff.1 hparent
        obtain ⟨child, hchild, hbelow⟩ := Option.bind_eq_some_iff.1 hnodes
        have hentry (q : List String) : entryAt (.dir entries) (above :: q) = child.entryAt q := by
          simp [entryAt, get?, hchild]
        rw [List.cons_append, set, hchild, Option.getD_some, entryAt_put]
        -- Beside the way nothing changes; on it, what happens is said by the shorter way.
        by_cases habove : first = above
        · subst habove
          rw [List.cons_append, hentry] at hfree
          have hstep := ih (entryAt_eq_dir_iff.2 ⟨nodes, hbelow⟩) hfree rest
          simpa [hentry] using hstep
        · simp [habove]

/-! ## Larger trees -/

/-- What stands in a tree stands in another one too, and directories are directories there. -/
structure Within (tree whole : FileTree) : Prop where
  dir {place : List String} : tree.entryAt place = some .dir → whole.entryAt place = some .dir
  isSome {place : List String} :
    (tree.entryAt place).isSome = true → (whole.entryAt place).isSome = true

/-- A tree with something new at a place where no directory stood is larger. -/
theorem within_of_entry {tree whole : FileTree} {place : List String} {what : Entry}
    (hfree : tree.entryAt place ≠ some .dir)
    (hentry : ∀ q, whole.entryAt q = if q = place then some what else tree.entryAt q) :
    Within tree whole := by
  constructor
  · intro q hq
    have hne : q ≠ place := fun h => hfree (h ▸ hq)
    rw [hentry, if_neg hne, hq]
  · intro q hq
    rw [hentry]
    split
    · rfl
    · exact hq

end DocSite.FileTree
