import DocSite.Project.ThemeFile
import DocSite.Site.Config

/-!
# Projects

  A configuration file with all that it leads to: the settings of the site, the
  theme if utility styles are enabled, and the variables of the theme's stylesheet.
-/

namespace DocSite

open DocSite.Text

/-- A loaded project. -/
structure Project where
  configFile : Path
  root : Path
  site : SiteConfig
  theme : Option Theme := none
  vars : Option RootVariables := none

namespace Project

/-! ## Loading -/

/-- Reads the settings of a configuration file. -/
def readSite (disk : Disk) (file : Path) : Loading SiteConfig := do
  match SiteConfig.parse (← readFile disk file) with
  | .error e => throw (.unparsable file e)
  | .ok reading =>
    logText reading.log
    refuseUnknown file reading.unknownKeys .unknownConfigKeys
    return reading.config

/-- The field that names the theme file. -/
def themeField (index : Nat) : FieldPath := (SiteConfig.integrationField index).key "config_file"

/-- Loads the theme of a site, if utility styles are enabled. -/
def loadTheme (disk : Disk) (verbose : Bool) (site : SiteConfig) (root : Path) :
    Loading (Option Theme) :=
  match site.tailwind? with
  | none => pure none
  | some (index, options) =>
    let file := root.join options.configFile
    return some
      (← inContext (.inNamedTheme (themeField index) file) (Theme.load disk verbose file))

/-- The details about a theme that are logged. -/
def themeDetails (t : Theme) (vars : Option RootVariables) : Loading Unit := do
  logText (Log.line "theme"
    (toString t.tokens.colors.flatten.length ++ " resolvable color tokens"))
  match vars with
  | some vars => logText (Log.line "theme" (toString vars.size ++ " root variables"))
  | none => pure ()
  match t.radiusPx Binary64 vars with
  | .ok (first :: rest) =>
    let texts := (first :: rest).map fun (tier, px) => tier ++ "=" ++ px.text ++ "px"
    logText (Log.line "theme" ("radius tiers: " ++ joinText ", " texts))
  | _ => pure ()

/-- Loads the project of a configuration file. -/
def load (disk : Disk) (verbose : Bool) (file : Path) : Loading Project := do
  let site ← readSite disk file
  let root := file.parent?.getD ⟨""⟩
  let theme ← loadTheme disk verbose site root
  let vars ←
    match theme with
    | some t => t.rootVariables disk
    | none => pure none
  match theme, verbose with
  | some t, true => themeDetails t vars
  | _, _ => pure ()
  return { configFile := file, root, site, theme, vars }

/-- Finds a configuration file in a directory or above it, and loads its project. -/
def discover (disk : Disk) (verbose : Bool) (start name : Path) : Loading Project := do
  match disk.findUpward start name with
  | none => throw (.configNotFound name start)
  | some file =>
    logDetail verbose "config" ("using " ++ file.text)
    load disk verbose file

/-! ## Checks -/

/-- What is to be said about the site, then about the theme. -/
def diagnostics (p : Project) : Diagnostics :=
  p.site.diagnostics ++ ((p.theme.map fun t => t.diagnostics p.vars).getD .none)

/-- Logs the warnings about a project and fails on errors. -/
def validate (p : Project) : Loading Unit := accept p.diagnostics

/-- The theme, or the failure that there is none. -/
def requireTheme (p : Project) : Except Failure Theme :=
  match p.theme with
  | some t => .ok t
  | none => .error (.noTheme p.configFile)

/-! ## Derived values -/

/-- The input set of the style processor. -/
def contentFiles (p : Project) (disk : Disk) : Except Failure (List Path) := do
  let t ← p.requireTheme
  match t.contentFiles disk p.root (p.site.outputDir p.root) with
  | .ok files => return files
  | .error e => .error (.badTheme e)

end Project

end DocSite
