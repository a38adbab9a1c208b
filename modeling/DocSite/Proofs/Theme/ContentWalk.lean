import DocSite.Proofs.PathOrder
import DocSite.Proofs.Theme.InputSet
import DocSite.Proofs.Theme.Matcher

/-!
# The files that globs take

  The globs of a theme choose among the files that a walk finds below the root of
  the project. The chosen files are listed in the order of their paths, each of them
  once, and the order of the globs plays no part.
-/

namespace DocSite

/-! ## Paths of a walk -/

theorem FileTree.reached_iff {place : List String} : Reached place ↔
    (∀ name ∈ place, name.toList.head? ≠ some '.') ∧ "node_modules" ∉ place.dropLast := by
  have hvisible : (∀ name ∈ place, isHidden name = false) ↔
      ∀ name ∈ place, name.toList.head? ≠ some '.' := by
    simp [isHidden]
  rw [← hvisible]
  constructor
  · rintro ⟨h, hentered⟩
    exact ⟨h, fun hmem => hentered _ hmem (by simp [prunedDirs])⟩
  · rintro ⟨h, hpruned⟩
    refine ⟨h, fun name hname hmem => hpruned ?_⟩
    obtain rfl := List.mem_singleton.1 hmem
    exact hname

/-- A directory whose path ends in the name of a pruned one is not entered. -/
theorem FileTree.notPruned_iff {node : FileTree} {last : Option String} :
    (∀ name ∈ last, node.isPruned name = false) ↔
      (node.isDir = true → last ≠ some "node_modules") := by
  cases last with
  | none => simp
  | some name => simp [isPruned, prunedDirs]

namespace Disk

variable {d : Disk} {root : Path}

/-- A walk lists the paths of the files that it gets to below its root, if it enters that. -/
theorem mem_walk_iff (hdistinct : d.tree.Distinct) {file : Path} :
    file ∈ d.walk root ↔ ∃ node place text, d.node? root = some node ∧
      node.get? place = some (.file text) ∧ file = relativePath place ∧ FileTree.Reached place ∧
      (node.isDir = true → root.fileName? ≠ some "node_modules") := by
  rw [mem_walk]
  constructor
  · rintro ⟨node, hnode, hroot, place, hplace, hfile⟩
    obtain ⟨found, -, hget⟩ := Option.bind_eq_some_iff.1 hnode
    obtain ⟨⟨text, htext⟩, hreached⟩ := (hdistinct.get? hget).mem_walk_iff.1 hplace
    exact ⟨node, place, text, hnode, htext, hfile, hreached, FileTree.notPruned_iff.1 hroot⟩
  · rintro ⟨node, place, text, hnode, htext, hfile, hreached, hroot⟩
    obtain ⟨found, -, hget⟩ := Option.bind_eq_some_iff.1 hnode
    have hplace := (hdistinct.get? hget).mem_walk_iff.2 ⟨⟨text, htext⟩, hreached⟩
    exact ⟨node, hnode, FileTree.notPruned_iff.2 hroot, place, hplace, hfile⟩

/-- No path of a walk has a dot in front. -/
theorem withoutHere_of_mem_walk (hnames : d.tree.WellNamed) {file : Path} (h : file ∈ d.walk root) :
    file.withoutHere = file := by
  obtain ⟨place, rfl, hplace⟩ := exists_of_mem_walk hnames h
  have hhead : (relativePath place).components.head? ≠ some .here := by
    rw [components_relativePath hplace]
    cases place <;> simp
  rw [Path.withoutHere, if_neg (by simpa using hhead)]

/-- No two paths of a walk have the same components. -/
theorem nodup_components_walk (hnames : d.tree.WellNamed) (hdistinct : d.tree.Distinct) :
    ((d.walk root).map Path.components).Nodup := by
  rw [walk]
  split
  · rename_i node hnode
    split
    · exact List.nodup_nil
    obtain ⟨found, -, hget⟩ := Option.bind_eq_some_iff.1 hnode
    have hinjective : Function.Injective Component.name := fun _ _ h => Component.name.inj h
    rw [List.map_map]
    refine (hdistinct.get? hget).nodup_walk.map_on fun place hplace place' hplace' heq => ?_
    rw [Function.comp_apply, Function.comp_apply,
      components_relativePath ((hnames.get? hget).of_mem_walk hplace),
      components_relativePath ((hnames.get? hget).of_mem_walk hplace')] at heq
    exact hinjective.list_map heq
  · exact List.nodup_nil

end Disk

namespace Theme

variable {disk : Disk} {matcher : ContentMatcher} {root : Path}

/-! ## The listed files -/

/-- What is listed is sorted by components, each path strictly before those behind it. -/
theorem pairwise_collect (hnames : disk.tree.WellNamed) (hdistinct : disk.tree.Distinct) :
    (collect disk matcher root).Pairwise fun p q => p.components < q.components := by
  have hle (p q : Path) : (!q.less p) = true ↔ p.components ≤ q.components := by
    rw [Bool.not_eq_true', ← Bool.not_eq_true, Path.less_iff_lt, not_lt]
  have hsorted : (collect disk matcher root).Pairwise fun p q => (!q.less p) = true := by
    apply List.pairwise_mergeSort
    · intro p q r hpq hqr
      rw [hle] at *
      exact hpq.trans hqr
    · intro p q
      rw [Bool.or_eq_true, hle, hle]
      exact le_total _ _
  -- Sorting allows equal neighbours; that there are none is a fact about the walk.
  have hnodup : ((collect disk matcher root).map Path.components).Nodup := by
    rw [collect, ((List.mergeSort_perm _ _).map _).nodup_iff]
    exact (Disk.nodup_components_walk hnames hdistinct).sublist (List.filter_sublist.map _)
  refine (hsorted.and (List.pairwise_map.1 hnodup)).imp fun {p q} h => ?_
  exact lt_of_le_of_ne ((hle p q).1 h.1) h.2

/-- Matchers that take the same paths list the same files. -/
theorem collect_congr {matcher' : ContentMatcher}
    (h : ∀ path, matcher'.isMatch path = matcher.isMatch path) :
    collect disk matcher' root = collect disk matcher root := by
  rw [collect, collect, funext h]

/-- Globs make a matcher when each of them fits. The listed files are in strictly increasing order
of their components. They are the files below the root to which a way leads without names that
start with a dot and without `node_modules`, and which some glob includes and none excludes; below
a root that is itself such a directory there are none. The order of the globs plays no part. -/
theorem collect_eq_input_set (hnames : disk.tree.WellNamed) (hdistinct : disk.tree.Distinct)
    (globs : List ContentGlob) (root : Path) :
    ((∃ matcher, ContentMatcher.ofGlobs globs = .ok matcher) ↔ ∀ g ∈ globs, g.Fits) ∧
    ∀ matcher, ContentMatcher.ofGlobs globs = .ok matcher →
      (collect disk matcher root).Pairwise (fun p q => p.components < q.components) ∧
      (∀ file, file ∈ collect disk matcher root ↔ ∃ node place text,
        disk.node? root = some node ∧ node.get? place = some (.file text) ∧
        file = Disk.relativePath place ∧ (∀ name ∈ place, name.toList.head? ≠ some '.') ∧
        "node_modules" ∉ place.dropLast ∧
        (node.isDir = true → root.fileName? ≠ some "node_modules") ∧
        (∃ g ∈ globs, g.isExclusion = false ∧ g.Matches file) ∧
        ∀ g ∈ globs, g.isExclusion = true → ¬g.Matches file) ∧
      ∀ globs', globs.Perm globs' → ∃ matcher', ContentMatcher.ofGlobs globs' = .ok matcher' ∧
        collect disk matcher' root = collect disk matcher root := by
  refine ⟨by simp [ContentMatcher.ofGlobs_eq_ok_iff], fun matcher hmatcher =>
    ⟨pairwise_collect hnames hdistinct, fun file => ?_, fun globs' hperm => ?_⟩⟩
  · -- What the walk finds has no dots for the current directory, so the globs see it as it is.
    rw [mem_collect_iff, ContentMatcher.isMatch_iff hmatcher]
    constructor
    · rintro ⟨hwalk, hmatch⟩
      rw [Disk.withoutHere_of_mem_walk hnames hwalk] at hmatch
      obtain ⟨node, place, text, hnode, htext, hfile, hreached, hroot⟩ :=
        (Disk.mem_walk_iff hdistinct).1 hwalk
      obtain ⟨hvisible, hpruned⟩ := FileTree.reached_iff.1 hreached
      exact ⟨node, place, text, hnode, htext, hfile, hvisible, hpruned, hroot, hmatch⟩
    · rintro ⟨node, place, text, hnode, htext, hfile, hvisible, hpruned, hroot, hmatch⟩
      have hreached := FileTree.reached_iff.2 ⟨hvisible, hpruned⟩
      have hwalk := (Disk.mem_walk_iff hdistinct).2
        ⟨node, place, text, hnode, htext, hfile, hreached, hroot⟩
      rw [Disk.withoutHere_of_mem_walk hnames hwalk]
      exact ⟨hwalk, hmatch⟩
  · obtain ⟨matcher', hmatcher', hmatch⟩ := ContentMatcher.exists_ofGlobs_of_perm hperm hmatcher
    exact ⟨matcher', hmatcher', collect_congr hmatch⟩

/-- A disk with pages, one of them a draft, beside what no walk goes through. -/
def draftDisk : Disk where
  cwd := ⟨"/"⟩
  tree := .dir [("node_modules", .dir [("a.html", .file "")]),
    (".git", .dir [("a.html", .file "")]),
    ("src", .dir [("draft.html", .file ""), ("a.html", .file "")])]

/-- Globs that take all pages but drafts. -/
def draftGlobs : List ContentGlob := [⟨"!src/draft.*"⟩, ⟨"./**/*.html"⟩]

theorem draftDisk_wellNamed : draftDisk.tree.WellNamed := by
  have hpages : FileTree.WellNamed (.dir [("a.html", .file "")]) :=
    .dir (by decide) (by simpa using FileTree.WellNamed.file "")
  have hsrc : FileTree.WellNamed (.dir [("draft.html", .file ""), ("a.html", .file "")]) :=
    .dir (by decide) (by simpa using FileTree.WellNamed.file "")
  exact .dir (by decide) (by simpa using ⟨hpages, hsrc⟩)

theorem draftDisk_distinct : draftDisk.tree.Distinct := by
  have hpages : FileTree.Distinct (.dir [("a.html", .file "")]) :=
    .dir (by decide) (by simpa using FileTree.Distinct.file "")
  have hsrc : FileTree.Distinct (.dir [("draft.html", .file ""), ("a.html", .file "")]) :=
    .dir (by decide) (by simpa using FileTree.Distinct.file "")
  exact .dir (by decide) (by simpa using ⟨hpages, hsrc⟩)

theorem collect_eq_input_set_drafts : draftDisk.tree.WellNamed ∧ draftDisk.tree.Distinct ∧
    ∃ matcher, ContentMatcher.ofGlobs draftGlobs = .ok matcher ∧
      ⟨"src/a.html"⟩ ∈ collect draftDisk matcher ⟨"/"⟩ ∧
      ⟨"src/draft.html"⟩ ∉ collect draftDisk matcher ⟨"/"⟩ ∧
      ∃ matcher', ContentMatcher.ofGlobs draftGlobs.reverse = .ok matcher' ∧
        collect draftDisk matcher' ⟨"/"⟩ = collect draftDisk matcher ⟨"/"⟩ := by
  obtain ⟨hfits, hfiles⟩ :=
    collect_eq_input_set draftDisk_wellNamed draftDisk_distinct draftGlobs ⟨"/"⟩
  obtain ⟨matcher, hmatcher⟩ := hfits.2 (by decide +kernel)
  obtain ⟨-, hmem, horder⟩ := hfiles matcher hmatcher
  refine ⟨draftDisk_wellNamed, draftDisk_distinct, matcher, hmatcher, ?_, ?_,
    horder _ (List.reverse_perm _).symm⟩
  · exact (hmem _).2 ⟨draftDisk.tree, ["src", "a.html"], "", rfl, rfl, rfl, by decide, by decide,
      by decide +kernel, by decide +kernel, by decide +kernel⟩
  · intro hdraft
    obtain ⟨-, -, -, -, -, -, -, -, -, -, hexcluded⟩ := (hmem _).1 hdraft
    exact hexcluded ⟨"!src/draft.*"⟩ (by decide) (by decide +kernel) (by decide +kernel)

/-- A root that is itself called `node_modules` hides its page, although the way from the root to
the page is free and the globs take it. -/
theorem collect_pruned_root : draftDisk.tree.WellNamed ∧ draftDisk.tree.Distinct ∧
    ∃ matcher node, ContentMatcher.ofGlobs draftGlobs = .ok matcher ∧
      draftDisk.node? ⟨"/node_modules"⟩ = some node ∧ node.get? ["a.html"] = some (.file "") ∧
      ⟨"a.html"⟩ = Disk.relativePath ["a.html"] ∧
      (∀ name ∈ ["a.html"], name.toList.head? ≠ some '.') ∧
      "node_modules" ∉ ["a.html"].dropLast ∧
      (∃ g ∈ draftGlobs, g.isExclusion = false ∧ g.Matches ⟨"a.html"⟩) ∧
      (∀ g ∈ draftGlobs, g.isExclusion = true → ¬g.Matches ⟨"a.html"⟩) ∧
      collect draftDisk matcher ⟨"/node_modules"⟩ = [] := by
  have hfits : ∀ g ∈ draftGlobs, g.Fits := by decide +kernel
  have hwalk : draftDisk.walk ⟨"/node_modules"⟩ = [] := by decide +kernel
  refine ⟨draftDisk_wellNamed, draftDisk_distinct, _, .dir [("a.html", .file "")],
    ContentMatcher.ofGlobs_eq_ok_iff.2 ⟨hfits, rfl⟩, rfl, rfl, rfl, by decide, by decide,
    by decide +kernel, by decide +kernel, ?_⟩
  rw [collect, hwalk, List.filter_nil, List.mergeSort_nil]

end Theme

end DocSite
