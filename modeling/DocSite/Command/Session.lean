import DocSite.Project.Basic

/-!
# Sessions

  A command runs on a disk and prints to two channels: results go to the output,
  what is said about the run goes to the log. A failure ends the command; what was
  written and printed before it stays.
-/

namespace DocSite

/-- A disk, and what has been printed. -/
structure Session where
  disk : Disk
  output : String := ""
  log : String := ""

/-- A computation in a session that may fail. -/
abbrev Running := ExceptT Failure (StateM Session)

namespace Running

/-- Prints a text as a result. -/
def print (text : String) : Running Unit :=
  modify fun s => { s with output := s.output ++ text }

/-- Prints a line as a result. -/
def printLine (text : String) : Running Unit := print (text ++ "\n")

/-- Appends a text to the log. -/
def logText (text : String) : Running Unit :=
  modify fun s => { s with log := s.log ++ text }

/-- Appends a line to the log. -/
def logLine (part message : String) : Running Unit := logText (Log.line part message)

/-- Carries out a computation that reads the disk and appends to the log. -/
def load {α : Type} (action : Disk → Loading α) : Running α := do
  let s ← get
  let (result, log) := (action s.disk).run s.log
  set { s with log }
  match result with
  | .ok a => return a
  | .error failure => throw failure

/-- The value of a computation that has ended. -/
def ofResult {α : Type} : Except Failure α → Running α
  | .ok a => pure a
  | .error failure => throw failure

/-! ## Writing -/

/-- Writes a file. -/
def writeFile (file : Path) (text : String) : Running Unit := do
  let s ← get
  match s.disk.write file text with
  | .ok disk => set { s with disk }
  | .error why => throw (.fileNotWritten file why)

/-- Makes a directory with those above it. -/
def makeDirs (dir : Path) : Running Unit := do
  let s ← get
  let (disk, result) := s.disk.makeDirs dir
  set { s with disk }
  match result with
  | .ok () => pure ()
  | .error why => throw (.dirNotMade dir why)

end Running

end DocSite
