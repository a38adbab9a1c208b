import DocSite.Path

/-!
# Commands

  What the program can be asked to do, and how a request is written: the names of
  the commands, of the export targets and of the color choices.
-/

namespace DocSite

/-! ## Parts of a request -/

/-- When colors are used. -/
inductive ColorChoice where
  | auto
  | always
  | never
  deriving DecidableEq, Repr

/-- The word for a color choice. -/
def ColorChoice.text : ColorChoice → String
  | .auto => "auto"
  | .always => "always"
  | .never => "never"

/-- The color choice of a word. -/
def ColorChoice.ofText? (word : String) : Option ColorChoice :=
  [ColorChoice.auto, .always, .never].find? fun choice => choice.text == word

@[simp] theorem ColorChoice.ofText?_text (choice : ColorChoice) :
    ColorChoice.ofText? choice.text = some choice := by
  cases choice <;> decide

/-- What can be exported. -/
inductive ExportTarget where
  /-- The settings of the site generator. -/
  | site
  /-- The settings of the style processor. -/
  | theme
  /-- The stylesheet of the theme. -/
  | css
  /-- The configuration file in its normal form. -/
  | toml
  deriving DecidableEq, Repr

/-- The word for an export target. -/
def ExportTarget.text : ExportTarget → String
  | .site => "site"
  | .theme => "theme"
  | .css => "css"
  | .toml => "toml"

/-- The export target of a word. -/
def ExportTarget.ofText? (word : String) : Option ExportTarget :=
  [ExportTarget.site, .theme, .css, .toml].find? fun target => target.text == word

@[simp] theorem ExportTarget.ofText?_text (target : ExportTarget) :
    ExportTarget.ofText? target.text = some target := by
  cases target <;> decide

/-- Which addresses are asked for. -/
inductive UrlQuery where
  /-- The pages of some links, or the site itself if there are none. -/
  | pages (links : List String)
  /-- The development server. -/
  | server
  /-- The directory of emitted assets. -/
  | assets
  deriving DecidableEq, Repr

/-! ## Requests -/

/-- What the program is asked to do. -/
inductive Command where
  /-- Write the starter files into a directory. -/
  | init (dir : Option Path) (force : Bool)
  /-- List what is wrong with the project. -/
  | check
  /-- Print addresses. -/
  | url (query : UrlQuery)
  /-- Print the rules of utility classes. -/
  | resolve (classes : List String)
  /-- List the input files of the style processor. -/
  | content
  /-- Print or write a record in the form its consumer reads. -/
  | render (target : ExportTarget) (output : Option Path)
  deriving DecidableEq, Repr

/-- A command with the settings that every command takes. -/
structure Invocation where
  color : ColorChoice := .auto
  config : Path
  verbose : Bool := false
  command : Command
  deriving DecidableEq, Repr

end DocSite
