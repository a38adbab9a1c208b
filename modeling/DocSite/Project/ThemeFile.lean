import DocSite.Failure
import DocSite.Log
import DocSite.Theme.Config

/-!
# Theme files

  A theme is loaded from a file together with the themes it extends: the base comes
  first, each file that extends it is layered on top. A chain that comes back to a
  file it has visited is refused.
-/

namespace DocSite

/-! ## Loading with a log -/

/-- A computation that may fail and appends lines to a log; what was logged stays when it
fails. -/
abbrev Loading := ExceptT Failure (StateM String)

/-- Appends to the log. -/
def logText (text : String) : Loading Unit := modify (· ++ text)

/-- Appends a line to the log if the user wants to see details. -/
def logDetail (verbose : Bool) (part message : String) : Loading Unit :=
  if verbose then logText (Log.line part message) else pure ()

/-- Reads a file. -/
def readFile (disk : Disk) (file : Path) : Loading String :=
  match disk.read file with
  | .ok text => pure text
  | .error e => throw (.unreadable file e)

/-- Fails if keys of a file mean nothing, after listing them. -/
def refuseUnknown (file : Path) (keys : List String) (failure : Failure) : Loading Unit :=
  if keys.isEmpty then pure ()
  else do
    logText (Log.unknownKeys file.shortName keys)
    throw failure

/-- Logs warnings and fails on errors. -/
def accept (found : Diagnostics) : Loading Unit := do
  logText (Log.warnings found)
  if found.isOk then pure () else throw (.rejected found)

/-- A computation whose failure is put below another one. -/
def inContext {α : Type} (wrap : Failure → Failure) (action : Loading α) : Loading α :=
  tryCatch action fun cause => throw (wrap cause)

namespace Theme

/-! ## Files -/

/-- The directory of a theme file. -/
def directory (file : Path) : Path := file.parent?.getD ⟨""⟩

/-- A theme as it stands in its file: its path is that of the file, and its stylesheet is looked
up beside it. -/
def atFile (t : Theme) (file : Path) : Theme :=
  { t with
    path := file
    stylesheet := t.stylesheet.map fun css =>
      if css.isAbsolute then css else (directory file).join css }

/-- Reads the theme of one file. -/
def readLayer (file : Path) (text : String) : Loading Theme := do
  match Theme.parse text with
  | .error e => throw (.unparsable file e)
  | .ok reading =>
    refuseUnknown file reading.unknownKeys .unknownThemeKeys
    return reading.theme.atFile file

/-- Layers a theme on its base. -/
def layered (base overlay : Theme) : Loading Theme :=
  match base.merge overlay with
  | .ok t => pure t
  | .error found => throw (.rejected found)

/-- The files of a disk whose places were not visited. -/
def unvisited (disk : Disk) (visited : List (List String)) : List (List String × String) :=
  disk.tree.files.filter fun (place, _) => !visited.contains place

/-- Visiting a file for the first time leaves fewer to visit. -/
theorem length_unvisited {disk : Disk} {visited : List (List String)} {file : Path}
    {place : List String} {text : String} (hfile : disk.fileAt file = .ok (place, text))
    (hnew : ¬visited.contains place = true) :
    (unvisited disk (place :: visited)).length < (unvisited disk visited).length := by
  have hget := (Disk.fileAt_eq_ok_iff.1 hfile).2
  have hmem : (place, text) ∈ unvisited disk visited :=
    List.mem_filter.2 ⟨FileTree.mem_files_of_get? hget, by simpa using hnew⟩
  have hfilter : unvisited disk (place :: visited) =
      (unvisited disk visited).filter fun (other, _) => !decide (other = place) := by
    simp [unvisited, List.filter_filter]
  rw [hfilter]
  exact List.length_filter_lt_length_iff_exists.2 ⟨_, hmem, by simp⟩

/-- Loads a theme file and those it extends. `visited` are the places on the way here; every file
on the way is a new one, so a chain has no more files than the disk. -/
def loadChain (disk : Disk) (verbose : Bool) (visited : List (List String)) (file : Path) :
    Loading Theme :=
  match hfile : disk.fileAt file with
  | .error e => throw (.unreadable file e)
  | .ok (place, text) =>
    -- Two paths to one file are the same place.
    if hnew : visited.contains place then throw (.selfExtending file)
    else
      have := length_unvisited hfile hnew
      do
        let t ← readLayer file text
        match t.baseFile.map fun base => (directory file).join base with
        | none => return t
        | some base =>
          logDetail verbose "theme" (file.text ++ " extends " ++ base.text)
          let lower ← inContext (.inBaseOf file) (loadChain disk verbose (place :: visited) base)
          layered lower t
termination_by (unvisited disk visited).length

/-- Loads a theme file and those it extends. -/
def load (disk : Disk) (verbose : Bool) (file : Path) : Loading Theme :=
  loadChain disk verbose [] file

/-- The variables of the stylesheet, if the theme names one. -/
def rootVariables (disk : Disk) (t : Theme) : Loading (Option RootVariables) :=
  match t.stylesheet with
  | none => pure none
  | some css => return some (RootVariables.parse (← readFile disk css))

/-- Logs the warnings about a theme and fails on errors. The stylesheet is read for it. -/
def validate (disk : Disk) (t : Theme) : Loading Unit := do
  let vars ← t.rootVariables disk
  accept (t.diagnostics vars)

/-! ## Content -/

/-- The files below a root that a matcher takes, in order. -/
def collect (disk : Disk) (matcher : ContentMatcher) (root : Path) : List Path :=
  ((disk.walk root).filter matcher.isMatch).mergeSort fun p q => !q.less p

/-- The input set of a theme: the files below a root that its globs take, without those below the
output directory. -/
def contentFiles (disk : Disk) (t : Theme) (root outputDir : Path) :
    Except ThemeError (List Path) := do
  let matcher ← t.contentMatcher
  return (collect disk matcher root).filter fun file => !(root.join file).startsWith outputDir

end Theme

end DocSite
