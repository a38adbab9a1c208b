import DocSite.Command.Run
import Std.Time.DateTime.Timestamp

/-!
# The program

  Copies what a command may touch from the machine into a disk, runs the command on
  it, and carries the changes back. Files that the command turns out to need are
  copied when it misses them.
-/

namespace DocSite.Terminal

/-! ## Looking at the machine -/

/-- Whether a directory stands at a path. -/
def isDir (path : String) : IO Bool := do
  try return ← (← IO.FS.realPath path).isDir
  catch _ => return false

/-- The text of the file at a path. -/
def readText? (path : String) : IO (Option String) := do
  try return some (← IO.FS.readFile path)
  catch _ => return none

/-- Copies what stands at a path and the directories above it. -/
def observe (disk : Disk) (path : Path) : IO Disk :=
  (disk.cwd.join path).ancestors.reverse.foldlM (fun disk p => do
    if ← isDir p.text then return (disk.makeDirs p).1
    else
      match ← readText? p.text with
      | some text => return (disk.write p text).toOption.getD disk
      | none => return disk) disk

/-- Copies the directory at a path, without what no walk enters. -/
partial def readTree (dir : String) : IO FileTree := do
  let mut entries := []
  for entry in ← (← IO.FS.realPath dir).readDir do
    let name := entry.fileName
    let path := dir ++ "/" ++ name
    if !FileTree.isHidden name then
      if ← isDir path then
        if !FileTree.prunedDirs.contains name then
          entries := (name, ← readTree path) :: entries
      else entries := (name, .file ((← readText? path).getD "")) :: entries
  return .dir entries

/-! ## Running -/

/-- The paths that a command may write to. -/
def targets (cwd : Path) : Command → List Path
  | .init dir _ => Starter.files.map fun (name, _) => (((dir.map cwd.join).getD cwd).join ⟨name⟩)
  | .render _ output => output.toList
  | _ => []

/-- Copies the directory of the project, whose files are listed. -/
def observeContent (disk : Disk) (config : Path) : IO Disk := do
  match (disk.findUpward disk.cwd config).bind Path.parent? with
  | none => return disk
  | some root =>
    match disk.locate root with
    | .ok place => return disk.put place (← readTree ("/" ++ Text.joinText "/" place))
    | .error _ => return disk

/-- The disk that a command starts with. -/
def prepare (cwd : Path) (i : Invocation) : IO Disk := do
  let configs := cwd.ancestors.map fun dir => dir.join i.config
  let disk ← (cwd :: configs).foldlM observe { tree := .empty, cwd }
  let disk ← if i.command = .content then observeContent disk i.config else pure disk
  (cwd :: configs ++ targets cwd i.command).foldlM observe disk

/-- Runs the command; `room` bounds the number of files that are copied on the way. -/
def attempt (now : Instant) (words : List String) : (room : Nat) → Disk → IO (Disk × Outcome)
  | room, disk => do
    let result := CommandLine.run disk now words
    match room, result.failure.map Failure.root with
    | room + 1, some (.unreadable file _) =>
      let seen ← observe disk file
      if seen.isFile file && !disk.isFile file then attempt now words room seen
      else return (disk, result)
    | _, _ => return (disk, result)

/-- Carries the files that differ back to the machine. -/
def commit (before after : Disk) : IO Unit := do
  let old := before.tree.files
  for (place, text) in after.tree.files do
    if !old.contains (place, text) then
      IO.FS.createDirAll ("/" ++ Text.joinText "/" place.dropLast)
      IO.FS.writeFile ("/" ++ Text.joinText "/" place) text

/-- The time of the run. -/
def now : IO Instant :=
  return ⟨(← Std.Time.Timestamp.now).toMillisecondsSinceUnixEpoch.val⟩

/-- Runs a command line. -/
def run (words : List String) : IO UInt32 := do
  let cwd : Path := ⟨toString (← IO.currentDir)⟩
  let disk ←
    match CommandLine.parse words with
    | .ok invocation => prepare cwd invocation
    | .error _ => pure { tree := .empty, cwd }
  let (before, result) ← attempt (← now) words 100 disk
  commit before result.disk
  IO.print result.output
  IO.eprint result.log
  return result.code.toUInt32

end DocSite.Terminal

/-- Runs the program. -/
def main (words : List String) : IO UInt32 := DocSite.Terminal.run words
