import DocSite.Command.Line
import DocSite.Command.Report
import DocSite.Theme.Export
import DocSite.Theme.Utility

/-!
# Running commands

  Each command as a computation in a session, and the run of a whole command line.
  All commands but the one that writes starter files work on the project that is
  found from the current directory upward; those that derive something from it
  accept it first.
-/

namespace DocSite

open DocSite.Text

/-! ## Starter files -/

namespace Starter

/-- The starter files with their texts. -/
def files : List (String × String) := [(configFile, configText), (themeFile, themeText)]

/-- Reads and checks a configuration that is to be written. Unknown keys are not asked for. -/
def checkTemplate (text : String) : Loading Unit :=
  match SiteConfig.parse text with
  | .error why => throw (.unparsableTemplate why)
  | .ok reading => do
    DocSite.logText reading.log
    accept reading.config.diagnostics

/-- Writes one starter file. -/
def writeInto (root : Path) (name text : String) : Running Unit := do
  let file := root.join ⟨name⟩
  Running.writeFile file text
  Running.logLine "init" ("wrote " ++ file.text)

/-- Writes the starter files into a directory. Files that exist are replaced only by force. -/
def writeFiles (root : Path) (force : Bool) : Running Unit := do
  let disk := (← get).disk
  match (files.map fun (name, _) => root.join ⟨name⟩).find? disk.exists?, force with
  | some file, false => throw (.alreadyExists file)
  | _, _ =>
    Running.makeDirs root
    files.forM fun (name, text) => writeInto root name text

/-- Starts a project in a directory: the configuration is checked before anything is written. -/
def install (root : Path) (force : Bool) : Running Unit := do
  Running.load fun _ => checkTemplate configText
  writeFiles root force

end Starter

namespace Project

/-! ## Printing -/

/-- Prints addresses. A development server that others can reach is mentioned. -/
def printUrls (p : Project) : UrlQuery → Running Unit
  | .server => do
    if p.site.server.host.isExposed then
      Running.logLine "url"
        ("dev server on " ++ ticked p.site.server.host.text ++ " is reachable from the network")
    Running.printLine p.site.listenUrl
  | .assets => Running.printLine p.site.assetsUrl
  | .pages links => (p.site.urls links).forM Running.printLine

/-- Prints the input files of the style processor. -/
def printContent (verbose : Bool) (p : Project) : Running Unit := do
  let files ← Running.ofResult (p.contentFiles (← get).disk)
  files.forM fun file => Running.printLine file.text
  if verbose then Running.logLine "content" (counted files.length "file" ++ " matched")

/-- Prints the rules of utility classes, with a blank line between them. Classes that have none
are logged, and counted at the end. -/
def printUtilities (p : Project) (classes : List String) : Running Unit := do
  let t ← Running.ofResult p.requireTheme
  let results := classes.map t.resolveUtility
  let faults := results.filterMap fun
    | .ok _ => none
    | .error e => some e.message
  faults.forM (Running.logLine "error")
  Running.printLine (joinText "\n\n" (results.filterMap fun
    | .ok u => some u.display
    | .error _ => none))
  if 0 < faults.length then throw (.unresolvedClasses faults.length classes.length)

/-! ## Exporting -/

/-- A record in the form its consumer reads. -/
def render (p : Project) (now : Instant) : ExportTarget → Except Failure String
  | .site => .ok (p.site.toJson now).pretty
  | .theme => return (← p.requireTheme).toJson.pretty
  | .css => return (← p.requireTheme).toCss p.vars
  | .toml => .ok p.site.toTomlText

/-- A text that ends with a line feed. -/
def endLine (text : String) : String :=
  if text.toList.getLast? == some '\n' then text else text ++ "\n"

/-- Prints an export, or writes it to a file, whose directory is made if it is missing. -/
def exportAs (p : Project) (now : Instant) (target : ExportTarget) (output : Option Path) :
    Running Unit := do
  let text := endLine (← Running.ofResult (p.render now target))
  match output with
  | none => Running.print text
  | some file =>
    match file.parent? with
    | some dir => if !dir.text.isEmpty then Running.makeDirs dir
    | none => pure ()
    Running.writeFile file text
    Running.logLine "export" ("wrote " ++ file.text)

end Project

/-! ## Command lines -/

namespace Invocation

/-- The project that is found from the current directory upward. -/
def project (i : Invocation) : Running Project :=
  Running.load fun disk => Project.discover disk i.verbose disk.cwd i.config

/-- The project, if it is fit for use. -/
def acceptedProject (i : Invocation) : Running Project := do
  let p ← i.project
  Running.load fun _ => p.validate
  return p

/-- Carries out the command. -/
def run (i : Invocation) (now : Instant) : Running Unit := do
  match i.command with
  | .init dir force =>
    let cwd := (← get).disk.cwd
    Starter.install ((dir.map cwd.join).getD cwd) force
  | .check => (CheckReport.ofProject (← i.project)).run
  | .url query => (← i.acceptedProject).printUrls query
  | .resolve classes => (← i.acceptedProject).printUtilities classes
  | .content => (← i.acceptedProject).printContent i.verbose
  | .render target output => (← i.acceptedProject).exportAs now target output

end Invocation

/-- How a run of the program ends. -/
structure Outcome where
  /-- Zero if all went well, one if the command failed, two if the line makes no sense. -/
  code : Nat
  output : String := ""
  log : String := ""
  disk : Disk
  /-- Why the command failed. -/
  failure : Option Failure := none

namespace CommandLine

/-- How the program is called. -/
def usage : String :=
  String.join
    ["Load, validate and export the site and theme records of a metasite project\n\n",
      "Usage: metasite [OPTIONS] <COMMAND>\n\n",
      "Commands:\n",
      "  init, i     Write a commented starter metasite.toml and theme.toml\n",
      "  check, c    Validate both records and print every diagnostic\n",
      "  url, u      Print the canonical URL, or each link joined under the base path\n",
      "  resolve, r  Resolve utility classes against the theme's tokens\n",
      "  content     List the files matched by the theme's content globs\n",
      "  export, e   Export a record in the shape its consumer reads\n",
      "  help        Print this message\n\n",
      "Options:\n",
      "      --color <COLOR>    Control colored output (auto, always, never)\n",
      "  -C, --config <CONFIG>  Config file path, searched upward from the current directory\n",
      "  -v, --verbose          Print debug output\n",
      "  -h, --help             Print help\n",
      "  -V, --version          Print version\n"]

/-- The outcome of a line that gives no command. -/
def Stop.outcome (disk : Disk) : Stop → Outcome
  | .help => { code := 0, output := usage, disk }
  | .version => { code := 0, output := "metasite " ++ Starter.version ++ "\n", disk }
  | .misuse why => { code := 2, log := "error: " ++ why.message ++ "\n", disk }

/-- Runs the program: `words` stand behind its name, and `now` is the time of the run. -/
def run (disk : Disk) (now : Instant) (words : List String) : Outcome :=
  match parse words with
  | .error stop => stop.outcome disk
  | .ok invocation =>
    match (invocation.run now).run { disk } with
    | (.ok (), s) => { code := 0, output := s.output, log := s.log, disk := s.disk }
    | (.error failure, s) =>
      { code := 1, output := s.output, log := s.log ++ failure.report, disk := s.disk,
        failure := some failure }

end CommandLine

end DocSite
