import DocSite.Proofs.FileTree
import Mathlib.Data.List.Nodup

/-!
# What a walk finds

  A walk through a tree finds the files to which a way leads without hidden names
  and without directories that no walk enters. Where no directory has two entries of
  one name, the walk finds each of these files once.
-/

namespace DocSite.FileTree

/-! ## Trees without repeated names -/

/-- No directory of the tree has two entries of one name. -/
inductive Distinct : FileTree → Prop where
  | file (text : String) : Distinct (.file text)
  | dir {entries : List (String × FileTree)} (hnames : (entries.map Prod.fst).Nodup)
      (hnodes : ∀ e ∈ entries, Distinct e.2) : Distinct (.dir entries)

/-- What stands at a place of a tree without repeated names has none either. -/
theorem Distinct.get? {place : List String} {tree node : FileTree} (h : tree.Distinct)
    (hnode : tree.get? place = some node) : node.Distinct := by
  induction place generalizing tree with
  | nil =>
    obtain rfl := Option.some.inj hnode
    exact h
  | cons name rest ih =>
    cases h with
    | file text => simp [FileTree.get?] at hnode
    | dir hnames hnodes =>
      obtain ⟨child, hchild, hrest⟩ := Option.bind_eq_some_iff.1 hnode
      exact ih (hnodes _ (Table.mem_of_lookup hchild)) hrest

/-! ## One directory -/

/-- Whether a walk goes through an entry: it is not hidden and no pruned directory. -/
def enters (e : String × FileTree) : Bool :=
  !(isHidden e.1 || e.2.isPruned e.1)

theorem isPruned_eq_false_iff {name : String} {node : FileTree} :
    node.isPruned name = false ↔ (node.isDir = true → name ∉ prunedDirs) := by
  simp [isPruned]

theorem enters_iff {name : String} {node : FileTree} : enters (name, node) = true ↔
    isHidden name = false ∧ (node.isDir = true → name ∉ prunedDirs) := by
  simp [enters, isPruned_eq_false_iff]

/-- The walk of a directory is that of the entries it goes through, one after the other. -/
theorem walkOf_eq_flatMap (entries : List (String × FileTree)) :
    walkOf entries = (entries.filter enters).flatMap fun e => e.2.walk.map (e.1 :: ·) := by
  induction entries with
  | nil => rfl
  | cons e rest ih =>
    obtain ⟨name, node⟩ := e
    rw [walkOf, ih]
    cases hskip : isHidden name || node.isPruned name with
    | true => rw [List.filter_cons_of_neg (by simp only [enters, hskip]; decide), if_pos rfl]
    | false =>
      rw [List.filter_cons_of_pos (by simp only [enters, hskip]; decide), List.flatMap_cons,
        if_neg Bool.false_ne_true]

theorem mem_walkOf_iff {entries : List (String × FileTree)} {place : List String} :
    place ∈ walkOf entries ↔ ∃ name node, (name, node) ∈ entries ∧ isHidden name = false ∧
      (node.isDir = true → name ∉ prunedDirs) ∧ ∃ rest ∈ node.walk, place = name :: rest := by
  simp only [walkOf_eq_flatMap, List.mem_flatMap, List.mem_filter, List.mem_map, Prod.exists,
    enters_iff, and_assoc, @eq_comm _ place]

/-! ## Whole trees -/

/-- A walk gets to a place when no name on the way is hidden and no directory on the way is
pruned. -/
structure Reached (place : List String) : Prop where
  visible : ∀ name ∈ place, isHidden name = false
  entered : ∀ name ∈ place.dropLast, name ∉ prunedDirs

theorem reached_nil : Reached [] := ⟨by simp, by simp⟩

/-- A name with something behind it is that of a directory on the way. -/
theorem reached_cons {name : String} {rest : List String} : Reached (name :: rest) ↔
    isHidden name = false ∧ (rest ≠ [] → name ∉ prunedDirs) ∧ Reached rest := by
  constructor
  · rintro ⟨hvisible, hentered⟩
    obtain ⟨hname, hrest⟩ := List.forall_mem_cons.1 hvisible
    -- The directories on the way are the name and those of the rest, unless nothing is behind it.
    refine ⟨hname, fun hne => hentered name ?_, hrest, fun other hother => hentered other ?_⟩
    · simp [List.dropLast_cons_of_ne_nil hne]
    · have hne : rest ≠ [] := by
        rintro rfl
        simp at hother
      simp [List.dropLast_cons_of_ne_nil hne, hother]
  · rintro ⟨hname, hpruned, hvisible, hentered⟩
    refine ⟨List.forall_mem_cons.2 ⟨hname, hvisible⟩, ?_⟩
    cases rest with
    | nil => simp
    | cons next rest =>
      rw [List.dropLast_cons_of_ne_nil (by simp)]
      exact List.forall_mem_cons.2 ⟨hpruned (by simp), hentered⟩

/-- No place goes on behind a file. -/
theorem isDir_iff_of_get? {place : List String} {tree : FileTree} {text : String}
    (h : tree.get? place = some (.file text)) : tree.isDir = true ↔ place ≠ [] := by
  cases place with
  | nil =>
    obtain rfl := Option.some.inj h
    simp [isDir]
  | cons name rest =>
    cases tree with
    | file text => simp [FileTree.get?] at h
    | dir entries => simp [isDir]

/-- A walk finds the files at the places that it gets to. -/
theorem Distinct.mem_walk_iff {tree : FileTree} (h : tree.Distinct) {place : List String} :
    place ∈ tree.walk ↔ (∃ text, tree.get? place = some (.file text)) ∧ Reached place := by
  induction h generalizing place with
  | file text =>
    cases place with
    | nil => simp [walk, FileTree.get?, reached_nil]
    | cons name rest => simp [walk, FileTree.get?]
  | @dir entries hnames hnodes ih =>
    rw [walk, mem_walkOf_iff]
    cases place with
    | nil => simp [FileTree.get?]
    | cons name rest =>
      -- The entries of a directory have names of their own, so the walk and the look-up meet.
      constructor
      · rintro ⟨_, node, hentry, hvisible, hpruned, _, hrest, heq⟩
        obtain ⟨rfl, rfl⟩ := List.cons.inj heq
        obtain ⟨⟨text, htext⟩, hreached⟩ := (ih _ hentry).1 hrest
        refine ⟨⟨text, ?_⟩, reached_cons.2 ⟨hvisible, fun hne => ?_, hreached⟩⟩
        · rw [FileTree.get?, Table.lookup_of_mem hnames hentry, Option.bind_some, htext]
        · exact hpruned ((isDir_iff_of_get? htext).2 hne)
      · rintro ⟨⟨text, htext⟩, hreached⟩
        obtain ⟨hvisible, hpruned, hrest⟩ := reached_cons.1 hreached
        obtain ⟨node, hnode, hget⟩ := Option.bind_eq_some_iff.1 htext
        have hentry := Table.mem_of_lookup hnode
        refine ⟨name, node, hentry, hvisible, fun hdir => ?_, rest, ?_, rfl⟩
        · exact hpruned ((isDir_iff_of_get? hget).1 hdir)
        · exact (ih _ hentry).2 ⟨⟨text, hget⟩, hrest⟩

/-- A walk finds no place twice. -/
theorem Distinct.nodup_walk {tree : FileTree} (h : tree.Distinct) : tree.walk.Nodup := by
  induction h with
  | file text => simp [walk]
  | @dir entries hnames hnodes ih =>
    rw [walk, walkOf_eq_flatMap, List.nodup_flatMap]
    constructor
    · intro e he
      exact (ih e (List.mem_of_mem_filter he)).map (List.cons_injective)
    · -- Places that start with different names are different.
      have hdistinct : (entries.filter enters).Pairwise fun e e' => e.1 ≠ e'.1 :=
        (List.pairwise_map.1 hnames).filter enters
      refine hdistinct.imp fun {e e'} hne place hplace hplace' => ?_
      obtain ⟨_, -, rfl⟩ := List.mem_map.1 hplace
      obtain ⟨_, -, heq⟩ := List.mem_map.1 hplace'
      exact hne (List.cons.inj heq).1.symm

end DocSite.FileTree
