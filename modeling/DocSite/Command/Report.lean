import DocSite.Command.Session

/-!
# Check reports

  What is wrong with a project, grouped by the files to mend. Warnings alone let a
  project pass.
-/

namespace DocSite

open DocSite.Text

/-- The diagnostics about a project by the names of its files. -/
structure CheckReport where
  files : List (String × Diagnostics)

namespace CheckReport

/-- The report about a project: the configuration file, then the theme file. -/
def ofProject (p : Project) : CheckReport where
  files :=
    (p.configFile.shortName, p.site.diagnostics) ::
      (p.theme.map fun t => (t.path.shortName, t.diagnostics p.vars)).toList

/-- The number of errors. -/
def errorCount (r : CheckReport) : Nat := (r.files.flatMap fun (_, d) => d.errors).length

/-- The number of warnings. -/
def warningCount (r : CheckReport) : Nat := (r.files.flatMap fun (_, d) => d.warnings).length

/-! ## Text -/

/-- The line of a warning. -/
def warningLine (w : Warning) : String :=
  Ansi.dim "[" ++ Ansi.paint .cyan w.field.text ++ Ansi.dim "]" ++ " " ++
    Ansi.paint .yellow "warning:" ++ " " ++ w.message ++ "\n"

/-- The paragraph of a file; nothing if there is nothing to mend. -/
def fileText (name : String) (d : Diagnostics) : String :=
  if d.errors.isEmpty && d.warnings.isEmpty then ""
  else
    "\n" ++ Ansi.bold name ++ " " ++
      Ansi.dim ("(" ++ counted d.errors.length "error" ++ ", " ++
        counted d.warnings.length "warning" ++ ")") ++ "\n" ++
      String.join (d.errors.map fun e => e.display ++ "\n") ++
      String.join (d.warnings.map warningLine)

/-- The paragraphs of all files. -/
def text (r : CheckReport) : String := String.join (r.files.map fun (name, d) => fileText name d)

/-- The verdict in one line. -/
def verdict (r : CheckReport) : String :=
  if r.errorCount = 0 then Ansi.paint .green "all checks passed"
  else
    Ansi.dim "found" ++ " " ++ Ansi.bold (Ansi.paint .red (toString r.errorCount)) ++ " " ++
      Ansi.dim ("error" ++ pluralEnding r.errorCount)

/-- Logs the report and fails on errors. -/
def run (r : CheckReport) : Running Unit := do
  Running.logText r.text
  if 0 < r.errorCount then throw (.configErrors r.errorCount)
  else
    Running.logLine "check"
      (if 0 < r.warningCount then r.verdict ++ " (" ++ counted r.warningCount "warning" ++ ")"
      else r.verdict)

end CheckReport

end DocSite
