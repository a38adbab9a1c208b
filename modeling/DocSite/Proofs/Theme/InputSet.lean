import DocSite.Project.ThemeFile
import DocSite.Proofs.Diagnostics
import DocSite.Proofs.Path
import DocSite.Proofs.Walk
import DocSite.Site.BuildOutput

/-!
# The input set and the output directory

  Files below the output directory are build output, and the input set of a theme
  is meant to leave them out. An output directory that passes its check never leads
  out of the root of the project. Whether a file is left out is a question about
  components as they are written: the answer is that of the resolved paths as long
  as the output directory is written without two dots, and with two dots in it no
  file is left out at all.
-/

namespace DocSite

open DocSite.Text

/-! ## Places that a walk finds -/

/-- A name that a directory can hold. Dots are not forbidden here: a walk takes them for hidden
names. -/
structure IsEntryName (name : String) : Prop where
  nonempty : name ≠ ""
  noSlash : '/' ∉ name.toList

instance (name : String) : Decidable (IsEntryName name) :=
  decidable_of_iff (name ≠ "" ∧ '/' ∉ name.toList) ⟨fun h => ⟨h.1, h.2⟩, fun h => ⟨h.1, h.2⟩⟩

namespace FileTree

/-- All names in a tree are names that a directory can hold. -/
inductive WellNamed : FileTree → Prop where
  | file (text : String) : WellNamed (.file text)
  | dir {entries : List (String × FileTree)} (hnames : ∀ e ∈ entries, IsEntryName e.1)
      (hnodes : ∀ e ∈ entries, WellNamed e.2) : WellNamed (.dir entries)

/-- What stands at a place of a well-named tree is well-named. -/
theorem WellNamed.get? {place : List String} {tree node : FileTree} (h : tree.WellNamed)
    (hnode : tree.get? place = some node) : node.WellNamed := by
  induction place generalizing tree with
  | nil =>
    obtain rfl := Option.some.inj hnode
    exact h
  | cons name rest ih =>
    cases h with
    | file text => simp [FileTree.get?] at hnode
    | dir hnames hnodes =>
      obtain ⟨child, hchild, hrest⟩ := Option.bind_eq_some_iff.1 hnode
      exact ih (hnodes _ (Table.mem_of_lookup hchild)) hrest

/-- A walk goes through names that are not hidden. -/
theorem WellNamed.of_mem_walk {tree : FileTree} (h : tree.WellNamed) {place : List String}
    (hplace : place ∈ tree.walk) : ∀ name ∈ place, IsEntryName name ∧ isHidden name = false := by
  induction h generalizing place with
  | file text =>
    obtain rfl : place = [] := by simpa [walk] using hplace
    simp
  | dir hnames hnodes ih =>
    obtain ⟨first, node, hentry, hvisible, -, rest, hrest, rfl⟩ := mem_walkOf_iff.1 hplace
    intro name hname
    rcases List.mem_cons.1 hname with rfl | hname
    · exact ⟨hnames _ hentry, hvisible⟩
    · exact ih _ hentry hrest name hname

end FileTree

/-- A name that is not hidden is a component of its own. -/
theorem IsEntryName.ofPiece? {name : String} (h : IsEntryName name)
    (hvisible : FileTree.isHidden name = false) :
    Component.ofPiece? name.toList = some (.name name) := by
  cases hname : name.toList with
  | nil => exact absurd (String.toList_eq_nil_iff.1 hname) h.nonempty
  | cons c rest =>
    have hdot : c ≠ '.' := by simpa [FileTree.isHidden, hname] using hvisible
    have hpiece : ¬(c :: rest).isEmpty ∧ c :: rest ≠ ['.'] ∧ c :: rest ≠ ['.', '.'] := by
      simp [hdot]
    rw [Component.ofPiece?, if_neg (by simp [hpiece]), if_neg hpiece.2.2, ← hname,
      String.ofList_toList]

namespace Disk

variable {place : List String}

theorem isAbsolute_relativePath (h : ∀ name ∈ place, IsEntryName name) :
    (relativePath place).isAbsolute = false := by
  cases place with
  | nil => rfl
  | cons name rest =>
    have hname := h name List.mem_cons_self
    cases htext : name.toList with
    | nil => exact absurd (String.toList_eq_nil_iff.1 htext) hname.nonempty
    | cons c cs =>
      have hslash : c ≠ '/' := by
        rintro rfl
        exact hname.noSlash (by simp [htext])
      simpa [Path.isAbsolute, relativePath, htext, joinWith_cons_head] using hslash

/-- The path of a place other than the directory itself has one piece a name. -/
theorem pieces_relativePath (hne : place ≠ []) (h : ∀ name ∈ place, IsEntryName name) :
    (relativePath place).pieces = place.map String.toList := by
  have hslash : ∀ piece ∈ place.map String.toList, '/' ∉ piece := by
    intro piece hpiece
    obtain ⟨name, hname, rfl⟩ := List.mem_map.1 hpiece
    exact (h name hname).noSlash
  rw [Path.pieces, if_neg (by simp [isAbsolute_relativePath h]), relativePath, toList_joinText]
  exact splitOn_joinWith (by simpa using hne) hslash

/-- The path of a place has the names on the way as its components. -/
theorem componentsOf_relativePath
    (h : ∀ name ∈ place, IsEntryName name ∧ FileTree.isHidden name = false) :
    Path.componentsOf (relativePath place).pieces = place.map Component.name := by
  by_cases hne : place = []
  · subst hne
    rfl
  · rw [pieces_relativePath hne fun name hname => (h name hname).1, Path.componentsOf,
      List.filterMap_map, ← List.filterMap_eq_map]
    refine List.filterMap_congr fun name hname => ?_
    exact (h name hname).1.ofPiece? (h name hname).2

/-- No dot stands in front of the path of a place. -/
theorem components_relativePath
    (h : ∀ name ∈ place, IsEntryName name ∧ FileTree.isHidden name = false) :
    (relativePath place).components = place.map Component.name := by
  have hnames : ∀ name ∈ place, IsEntryName name := fun name hname => (h name hname).1
  rw [Path.components, if_neg (by simp [isAbsolute_relativePath hnames])]
  split
  · rename_i rest hpieces
    have hne : place ≠ [] := by
      rintro rfl
      have hempty : (relativePath []).pieces = [[]] := by decide
      simp [hempty] at hpieces
    -- The first piece is a name, and a dot would be a hidden one.
    obtain ⟨first, others, rfl⟩ := List.exists_cons_of_ne_nil hne
    rw [pieces_relativePath hne hnames] at hpieces
    have hdot : first.toList = ['.'] := (List.cons.inj hpieces).1
    have hvisible := (h first List.mem_cons_self).2
    simp [FileTree.isHidden, hdot] at hvisible
  · exact componentsOf_relativePath h

/-- A walk lists the places that it finds below its root, unless it does not enter that. -/
theorem mem_walk {d : Disk} {root file : Path} : file ∈ d.walk root ↔
    ∃ node, d.node? root = some node ∧ (∀ name ∈ root.fileName?, node.isPruned name = false) ∧
      ∃ place ∈ node.walk, file = relativePath place := by
  rw [walk]
  cases d.node? root with
  | none => simp
  | some node =>
    cases root.fileName? with
    | none => simp [@eq_comm _ file]
    | some name => cases hpruned : node.isPruned name <;> simp [hpruned, @eq_comm _ file]

/-- What a walk finds is the path of a place, with names that are not hidden. -/
theorem exists_of_mem_walk {d : Disk} {root file : Path} (hnames : d.tree.WellNamed)
    (h : file ∈ d.walk root) : ∃ place : List String, file = relativePath place ∧
      ∀ name ∈ place, IsEntryName name ∧ FileTree.isHidden name = false := by
  obtain ⟨node, hnode, -, place, hplace, rfl⟩ := mem_walk.1 h
  obtain ⟨found, -, hget⟩ := Option.bind_eq_some_iff.1 hnode
  exact ⟨place, rfl, (hnames.get? hget).of_mem_walk hplace⟩

end Disk

/-! ## The output directory -/

namespace BuildOutput

/-- Along components that do not leave a directory, a walk from below it stays below it. -/
theorem prefix_of_not_leaves {depth : Nat} {components : List Component}
    (h : leaves depth components = false) (hroot : .root ∉ components) (top below : List String)
    (hdepth : below.length = depth) :
    top <+: components.foldl Component.goFrom (top ++ below) := by
  -- The walk stands as deep below the directory as the check has counted.
  fun_induction leaves depth components generalizing below with
  | case1 depth => exact List.prefix_append top below
  | case2 depth name rest ih =>
    rw [List.foldl_cons, Component.goFrom, List.append_assoc]
    exact ih h (fun hmem => hroot (by simp [hmem])) _ (by simp [hdepth])
  | case3 rest => simp at h
  | case4 depth rest ih =>
    have hne : below ≠ [] := by
      rintro rfl
      simp at hdepth
    rw [List.foldl_cons, Component.goFrom, List.dropLast_append_of_ne_nil hne]
    exact ih h (fun hmem => hroot (by simp [hmem])) _ (by simp [hdepth])
  | case5 depth rest ih => simp at hroot
  | case6 depth rest ih =>
    rw [List.foldl_cons, Component.goFrom]
    exact ih h (fun hmem => hroot (by simp [hmem])) _ hdepth

/-- The place in a record that errors about the output directory name. -/
def outDirField : FieldPath := ⟨"build.out_dir"⟩

/-- An output directory without errors is relative and does not leave the root. -/
theorem of_no_error {b : BuildOutput} (h : ∀ e ∈ b.diagnostics.errors, e.field ≠ outDirField) :
    b.outDir.isAbsolute = false ∧ leaves 0 b.outDir.components = false := by
  have hcheck : ∀ e ∈ (checkOutDir b.outDir).errors, e.field ≠ outDirField :=
    fun e he => h e (by simp [diagnostics, he])
  rw [checkOutDir] at hcheck
  split at hcheck
  · exact absurd rfl (hcheck _ List.mem_cons_self)
  · split at hcheck
    · exact absurd rfl (hcheck _ List.mem_cons_self)
    · rename_i hrelative
      refine ⟨by simpa using hrelative, ?_⟩
      cases hleaves : leaves 0 b.outDir.components with
      | false => rfl
      | true =>
        rw [hleaves, Diagnostics.when, if_pos rfl] at hcheck
        exact absurd rfl (hcheck _ List.mem_cons_self)

/-- The output directory lies under the root. -/
theorem outputDir_liesUnder {b : BuildOutput} {root : Path} (habs : root.isAbsolute = true)
    (hrelative : b.outDir.isAbsolute = false) (hstays : leaves 0 b.outDir.components = false) :
    (b.outputDir root).LiesUnder root := by
  rw [Path.LiesUnder, outputDir, Path.resolved_join habs hrelative]
  have hroot : .root ∉ b.outDir.components := Path.root_not_mem_components hrelative
  simpa using prefix_of_not_leaves hstays hroot root.resolved [] rfl

end BuildOutput

/-! ## The input set -/

namespace Theme

variable {disk : Disk} {t : Theme} {matcher : ContentMatcher} {root outputDir file : Path}

/-- The input set exists when the globs can be read, and the output directory is compared by
components. -/
theorem contentFiles_of_matcher (hmatcher : t.contentMatcher = .ok matcher) :
    ∃ files, t.contentFiles disk root outputDir = .ok files ∧ ∀ file, file ∈ files ↔
      file ∈ collect disk matcher root ∧ ¬outputDir.components <+: (root.join file).components := by
  refine ⟨_, by rw [contentFiles, hmatcher]; rfl, fun file => ?_⟩
  rw [List.mem_filter, Bool.not_eq_true', ← Bool.not_eq_true, Path.startsWith,
    List.isPrefixOf_iff_prefix]

theorem mem_collect_iff : file ∈ collect disk matcher root ↔
    file ∈ disk.walk root ∧ matcher.isMatch file = true := by
  rw [collect, List.mem_mergeSort, List.mem_filter]

/-- Comparing components finds the files that lie under a directory, unless two dots stand in the
way it is written: then it finds none. -/
theorem components_prefix_iff {dir : Path} {place : List String}
    (hplace : ∀ name ∈ place, IsEntryName name ∧ FileTree.isHidden name = false)
    (habs : root.isAbsolute = true) (hrelative : dir.isAbsolute = false) :
    (root.join dir).components <+: (root.join (Disk.relativePath place)).components ↔
      .up ∉ dir.components ∧ (root.join (Disk.relativePath place)).LiesUnder (root.join dir) := by
  -- Both paths begin with the components of the root, so the rest is compared.
  have hfile := Disk.isAbsolute_relativePath fun name hname => (hplace name hname).1
  have hcomponents := Disk.componentsOf_relativePath hplace
  rw [Path.components_join habs hrelative, Path.components_join habs hfile, hcomponents,
    List.prefix_append_right_inj, ← Path.up_mem_componentsOf_iff hrelative]
  by_cases hup : .up ∈ Path.componentsOf dir.pieces
  · -- No name of a file is two dots.
    have hnot : ¬Path.componentsOf dir.pieces <+: place.map Component.name := fun hprefix => by
      simpa using hprefix.mem hup
    simp [hup, hnot]
  · -- Without two dots both are lists of names, where resolving changes nothing.
    obtain ⟨names, hnames⟩ := Path.exists_names hup
    have hdir := Path.resolved_join_names habs hrelative hnames
    have hunder := Path.resolved_join_names habs hfile hcomponents
    have hinjective : Function.Injective Component.name := fun a b h => Component.name.inj h
    rw [Path.LiesUnder, hdir, hunder, List.prefix_append_right_inj, hnames,
      List.prefix_map_iff_of_injective hinjective]
    simp

/-- Below an output directory without errors, which lies under the root, no file is in the input
set, provided that the directory is written without two dots. With two dots in it, the input set
is everything that the globs take. -/
theorem contentFiles_outside_output {b : BuildOutput} (hnames : disk.tree.WellNamed)
    (habs : root.isAbsolute = true) (hmatcher : t.contentMatcher = .ok matcher)
    (hok : ∀ e ∈ b.diagnostics.errors, e.field ≠ BuildOutput.outDirField) :
    (b.outputDir root).LiesUnder root ∧
    ∃ files, t.contentFiles disk root (b.outputDir root) = .ok files ∧ ∀ file, file ∈ files ↔
      file ∈ collect disk matcher root ∧
        (.up ∈ b.outDir.components ∨ ¬(root.join file).LiesUnder (b.outputDir root)) := by
  obtain ⟨hrelative, hstays⟩ := BuildOutput.of_no_error hok
  refine ⟨BuildOutput.outputDir_liesUnder habs hrelative hstays, ?_⟩
  obtain ⟨files, hfiles, hmem⟩ := contentFiles_of_matcher hmatcher
  refine ⟨files, hfiles, fun file => (hmem file).trans (and_congr_right fun hfile => ?_)⟩
  obtain ⟨place, rfl, hplace⟩ := Disk.exists_of_mem_walk hnames (mem_collect_iff.1 hfile).1
  rw [BuildOutput.outputDir, components_prefix_iff hplace habs hrelative]
  tauto

/-! ## Two spellings of an output directory -/

/-- A disk with a page and the output that was built from it. -/
def builtDisk : Disk where
  cwd := ⟨"/"⟩
  tree := .dir [("dist", .dir [("a.html", .file "")]), ("src", .dir [("a.html", .file "")])]

/-- A theme that takes all pages. -/
def pageTheme : Theme := { content := [⟨"./**/*.html"⟩] }

theorem pageTheme_matcher : ∃ matcher, pageTheme.contentMatcher = .ok matcher ∧
    matcher.isMatch ⟨"dist/a.html"⟩ = true ∧ matcher.isMatch ⟨"src/a.html"⟩ = true := by
  have h : pageTheme.contentMatcher.toOption.any (fun m =>
      m.isMatch ⟨"dist/a.html"⟩ && m.isMatch ⟨"src/a.html"⟩) = true := by
    decide +kernel
  cases hmatcher : pageTheme.contentMatcher with
  | error e => simp [hmatcher, Except.toOption] at h
  | ok matcher => exact ⟨matcher, rfl, by simpa [hmatcher, Except.toOption] using h⟩

theorem builtDisk_wellNamed : builtDisk.tree.WellNamed := by
  have hpages : FileTree.WellNamed (.dir [("a.html", .file "")]) :=
    .dir (by decide) (by simpa using FileTree.WellNamed.file "")
  exact .dir (by decide) (by simpa using hpages)

theorem contentFiles_outside_output_dist :
    ∃ files, pageTheme.contentFiles builtDisk ⟨"/"⟩ (BuildOutput.outputDir {} ⟨"/"⟩) = .ok files ∧
      ⟨"dist/a.html"⟩ ∉ files ∧ ⟨"src/a.html"⟩ ∈ files := by
  obtain ⟨matcher, hmatcher, -, hsrc⟩ := pageTheme_matcher
  have hok : ∀ e ∈ (BuildOutput.diagnostics {}).errors, e.field ≠ BuildOutput.outDirField := by
    decide +kernel
  obtain ⟨-, files, hfiles, hmem⟩ := contentFiles_outside_output builtDisk_wellNamed
    (by decide : (Path.mk "/").isAbsolute = true) hmatcher hok
  refine ⟨files, hfiles, fun hdist => ?_, ?_⟩
  · rcases ((hmem _).1 hdist).2 with hup | hout
    · exact absurd hup (by decide +kernel)
    · exact absurd hout (by decide +kernel)
  · rw [hmem, mem_collect_iff]
    exact ⟨⟨by decide +kernel, hsrc⟩, .inr (by decide +kernel)⟩

/-- An output directory that is written with a detour. -/
def detour : BuildOutput := { outDir := ⟨"target/../dist"⟩ }

/-- A detour passes the check and leads to the same directory, a proper one under the root, but the
files in it stay in the input set. -/
theorem contentFiles_keeps_output : detour.diagnostics.errors = [] ∧
    (detour.outputDir ⟨"/"⟩).LiesUnder ⟨"/"⟩ ∧ ¬(Path.mk "/").LiesUnder (detour.outputDir ⟨"/"⟩) ∧
    (Path.join ⟨"/"⟩ ⟨"dist/a.html"⟩).LiesUnder (detour.outputDir ⟨"/"⟩) ∧
    ∃ files, pageTheme.contentFiles builtDisk ⟨"/"⟩ (detour.outputDir ⟨"/"⟩) = .ok files ∧
      ⟨"dist/a.html"⟩ ∈ files := by
  obtain ⟨matcher, hmatcher, hdist, -⟩ := pageTheme_matcher
  obtain ⟨files, hfiles, hmem⟩ := contentFiles_of_matcher hmatcher
  refine ⟨by decide +kernel, by decide +kernel, by decide +kernel, by decide +kernel,
    files, hfiles, ?_⟩
  rw [hmem, mem_collect_iff]
  exact ⟨⟨by decide +kernel, hdist⟩, by decide +kernel⟩

end Theme

end DocSite
