import DocSite.Diagnostics
import DocSite.Disk
import DocSite.Theme.Error
import DocSite.Toml.Decode

/-!
# Failures

  Why a project cannot be loaded or a command cannot be carried out. A failure is a
  chain: what was attempted, and below it what went wrong. It is reported with the
  outermost message first and its causes behind it.
-/

namespace DocSite

open DocSite.Text

/-- Why something could not be done. -/
inductive Failure where
  | unreadable (file : Path) (why : OsError)
  | unparsable (file : Path) (why : Toml.DocumentError)
  | selfExtending (theme : Path)
  | rejected (found : Diagnostics)
  | unknownConfigKeys
  | unknownThemeKeys
  | configNotFound (name start : Path)
  | noTheme (configFile : Path)
  | badTheme (why : ThemeError)
  | unparsableTemplate (why : Toml.DocumentError)
  | alreadyExists (file : Path)
  | dirNotMade (dir : Path) (why : OsError)
  | fileNotWritten (file : Path) (why : OsError)
  | configErrors (count : Nat)
  | unresolvedClasses (failed total : Nat)
  /-- The theme that a field of the configuration names cannot be loaded. -/
  | inNamedTheme (field : FieldPath) (theme : Path) (cause : Failure)
  /-- The theme that another one extends cannot be loaded. -/
  | inBaseOf (theme : Path) (cause : Failure)

/-- The text of a document that gives no record. -/
def Toml.DocumentError.message : Toml.DocumentError → String
  | .malformed => "TOML parse error: the document is not well-formed"
  | .unfit why => "TOML parse error: " ++ why.message

namespace Failure

/-- What is shown of a failure as such, without its causes. -/
def headline : Failure → String
  | .unreadable file _ => "IO error when reading " ++ ticked file.text
  | .unparsable file _ => "failed to parse " ++ ticked file.text
  | .selfExtending theme =>
    "config validation error: theme " ++ ticked theme.text ++ " extends itself"
  | .rejected found => found.display
  | .unknownConfigKeys => "Aborted due to unknown config fields"
  | .unknownThemeKeys => "Aborted due to unknown theme fields"
  | .configNotFound name start =>
    "config file " ++ ticked name.text ++ " not found in " ++ ticked start.text ++
      " or any parent directory. Run `metasite init` to create one."
  | .noTheme configFile =>
    "no theme loaded: add [[integrations]] name = \"tailwind\" to " ++ ticked configFile.text
  | .badTheme why => why.message
  | .unparsableTemplate _ => "generated config template does not parse"
  | .alreadyExists file =>
    "'" ++ file.text ++ "' already exists.\nUse `metasite init --force` to overwrite."
  | .dirNotMade dir _ => "Failed to create directory '" ++ dir.text ++ "'"
  | .fileNotWritten file _ => "Failed to write '" ++ file.text ++ "'"
  | .configErrors count => "found " ++ counted count "config error"
  | .unresolvedClasses failed total =>
    toString failed ++ " of " ++ toString total ++ " classes could not be resolved"
  | .inNamedTheme field theme _ =>
    "failed to load the theme named by " ++ ticked field.text ++ " (" ++ theme.text ++ ")"
  | .inBaseOf theme _ => "failed to load the base of theme " ++ ticked theme.text

/-- The innermost failure. -/
def root : Failure → Failure
  | .inNamedTheme _ _ cause => cause.root
  | .inBaseOf _ cause => cause.root
  | failure => failure

/-- The messages below the innermost failure's own: what the system or the reader says. -/
def reason : Failure → List String
  | .unreadable _ why => [why.message]
  | .unparsable _ why => [why.message]
  | .unparsableTemplate why => [why.message]
  | .dirNotMade _ why => [why.message]
  | .fileNotWritten _ why => [why.message]
  | _ => []

/-- All messages, the outermost first. -/
def chain : Failure → List String
  | .inNamedTheme field theme cause =>
    (Failure.inNamedTheme field theme cause).headline :: cause.chain
  | .inBaseOf theme cause => (Failure.inBaseOf theme cause).headline :: cause.chain
  | failure => failure.headline :: failure.reason

/-! ## Reports -/

/-- A text whose lines after the first are indented. -/
def indentLines (indent : String) (text : String) : String :=
  joinText ("\n" ++ indent) (splitText '\n' text)

/-- The lines of causes: numbered if there are several. -/
def causeLines (causes : List String) : String :=
  match causes with
  | [cause] => "\n    " ++ indentLines "    " cause
  | causes =>
    String.join (causes.zipIdx.map fun (cause, i) =>
      let number := toString i
      let pad := String.ofList (List.replicate (5 - number.length) ' ')
      "\n" ++ pad ++ number ++ ": " ++ indentLines "       " cause)

/-- The report of a failure. -/
def report (failure : Failure) : String :=
  match failure.chain with
  | [] => ""
  | [message] => "Error: " ++ message ++ "\n"
  | message :: causes => "Error: " ++ message ++ "\n\nCaused by:" ++ causeLines causes ++ "\n"

end Failure

end DocSite
