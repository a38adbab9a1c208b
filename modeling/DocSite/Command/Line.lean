import DocSite.Command.Basic
import DocSite.Starter.Files
import DocSite.Text.Split

/-!
# Command lines

  A command line has two levels: settings that every command takes, then the name
  of a command with its own options and operands. An option that takes a value is
  held back until the next word settles it, so that a fault in a later word can be
  noticed first; the faults of the inner level come before those held back in the
  outer one.
-/

namespace DocSite.CommandLine

open DocSite.Text

/-! ## Faults -/

/-- What is wrong with a command line. -/
inductive Misuse where
  | nothingGiven
  | missingCommand
  | unknownCommand (word : String)
  | unknownArgument (word : String)
  | badValue (option word : String)
  | unexpectedValue (option word : String)
  | conflict (first second : String)
  | missingOperand (name : String)
  deriving DecidableEq, Repr

/-- The text of a fault. -/
def Misuse.message : Misuse → String
  | .nothingGiven => "a command is needed"
  | .missingCommand => "'metasite' requires a subcommand but one was not provided"
  | .unknownCommand word => "unrecognized subcommand '" ++ word ++ "'"
  | .unknownArgument word => "unexpected argument '" ++ word ++ "' found"
  | .badValue option "" => "a value is required for '" ++ option ++ "' but none was supplied"
  | .badValue option word => "invalid value '" ++ word ++ "' for '" ++ option ++ "'"
  | .unexpectedValue option word =>
    "unexpected value '" ++ word ++ "' for '" ++ option ++ "' found; no more were expected"
  | .conflict first second =>
    if first == second then "the argument '" ++ first ++ "' cannot be used multiple times"
    else "the argument '" ++ first ++ "' cannot be used with '" ++ second ++ "'"
  | .missingOperand name => "the following required arguments were not provided: " ++ name

/-- Why a command line gives no command to carry out. -/
inductive Stop where
  /-- An explanation is wanted. -/
  | help
  /-- The version is wanted. -/
  | version
  /-- The line cannot be understood. -/
  | misuse (why : Misuse)
  deriving DecidableEq, Repr

/-! ## Options -/

/-- What an option says. -/
inductive Setting where
  | color (choice : ColorChoice)
  | config (file : Path)
  | verbose
  | force
  | server
  | assets
  | output (file : Path)
  deriving DecidableEq, Repr

/-- A path that is not empty. -/
def path? (word : String) : Option Path := if word.isEmpty then none else some ⟨word⟩

/-- How an option acts. -/
inductive Action where
  | flag (setting : Setting)
  | valued (read : String → Option Setting)
  | help
  | version

/-- An option as it is written. -/
structure Opt where
  long : String
  short : Option Char := none
  action : Action

namespace Opt

/-- How messages name the option. -/
def display (o : Opt) : String := "--" ++ o.long

def color : Opt := ⟨"color", none, .valued fun w => (ColorChoice.ofText? w).map .color⟩

def config : Opt := ⟨"config", some 'C', .valued fun w => (path? w).map .config⟩

def verbose : Opt := ⟨"verbose", some 'v', .flag .verbose⟩

def help : Opt := ⟨"help", some 'h', .help⟩

def version : Opt := ⟨"version", some 'V', .version⟩

def force : Opt := ⟨"force", some 'f', .flag .force⟩

def server : Opt := ⟨"dev", none, .flag .server⟩

def assets : Opt := ⟨"assets", none, .flag .assets⟩

def output : Opt := ⟨"output", some 'o', .valued fun w => (path? w).map .output⟩

/-- The options that every level takes. -/
def shared : List Opt := [color, config, verbose, help]

end Opt

/-- The operands of a level. -/
structure Operand where
  name : String
  /-- Whether there may be several. -/
  many : Bool := false
  /-- Which words are meaningful. -/
  accepts : String → Bool := fun _ => true

/-! ## Levels -/

/-- The names of commands on the command line. -/
inductive Verb where
  | init
  | check
  | url
  | resolve
  | content
  | render
  | help
  deriving DecidableEq, Repr

/-- The verb of a word: its full name or its short one. -/
def Verb.ofText? : String → Option Verb
  | "init" | "i" => some .init
  | "check" | "c" => some .check
  | "url" | "u" => some .url
  | "resolve" | "r" => some .resolve
  | "content" => some .content
  | "export" | "e" => some .render
  | "help" => some .help
  | _ => none

/-- What one level of a command line may hold. -/
structure Level where
  options : List Opt
  operand : Option Operand := none
  /-- Whether the name of a command ends the level. -/
  verbs : Bool := false

namespace Level

/-- The level in front of the command. -/
def outer : Level := { options := Opt.version :: Opt.shared, verbs := true }

/-- The level of a command. -/
def ofVerb : Verb → Level
  | .init =>
    { options := Opt.force :: Opt.shared
      operand := some { name := "DIR", accepts := fun w => (path? w).isSome } }
  | .url =>
    { options := Opt.server :: Opt.assets :: Opt.shared
      operand := some { name := "LINK", many := true } }
  | .resolve => { options := Opt.shared, operand := some { name := "CLASS", many := true } }
  | .render =>
    { options := Opt.output :: Opt.shared
      operand := some { name := "WHAT", accepts := fun w => (ExportTarget.ofText? w).isSome } }
  | .check => { options := Opt.shared }
  | .content => { options := Opt.shared }
  | .help => { options := Opt.shared }

/-- The verb that a word gives at this level. -/
def verb? (level : Level) (word : String) : Option Verb :=
  if level.verbs then Verb.ofText? word else none

/-- The option of a long name. -/
def long? (level : Level) (name : List Char) : Option Opt :=
  level.options.find? fun o => o.long.toList == name

/-- The option of a short name. -/
def short? (level : Level) (c : Char) : Option Opt :=
  level.options.find? fun o => o.short == some c

end Level

/-! ## Reading one level -/

/-- Words that are not settled yet. -/
inductive Pending where
  | nothing
  /-- An option, perhaps with its value. -/
  | option (opt : Opt) (value : Option String)
  /-- Operands in a row. -/
  | operands (words : List String)

/-- What has been read at a level. -/
structure Found where
  /-- The options that are settled, with their long names. -/
  settings : List (String × Setting) := []
  operands : List String := []
  pending : Pending := .nothing

namespace Found

/-- Whether the last option lacks its value. -/
def isAwaiting (found : Found) : Bool :=
  match found.pending with
  | .option _ none => true
  | _ => false

/-- Adds the setting of an option; no option may be set twice. -/
def addSetting (found : Found) (opt : Opt) (setting : Option Setting) (word : String) :
    Except Stop Found :=
  if found.settings.any fun (name, _) => name == opt.long then
    .error (.misuse (.conflict opt.display opt.display))
  else
    match setting with
    | none => .error (.misuse (.badValue opt.display word))
    | some s => .ok { found with settings := found.settings ++ [(opt.long, s)] }

/-- Lets an option act; a flag ignores the word. -/
def act (found : Found) (opt : Opt) (word : Option String) : Except Stop Found :=
  match opt.action, word with
  | .help, _ => .error .help
  | .version, _ => .error .version
  | .flag setting, _ => found.addSetting opt (some setting) ""
  | .valued _, none => .error (.misuse (.badValue opt.display ""))
  | .valued read, some word => found.addSetting opt (read word) word

/-- Settles what is pending. -/
def settle (level : Level) (found : Found) : Except Stop Found :=
  let rest := { found with pending := .nothing }
  match found.pending with
  | .nothing => .ok rest
  | .option opt value => rest.act opt value
  | .operands words =>
    match level.operand with
    | none => .ok rest
    | some operand =>
      match words.find? fun w => !operand.accepts w with
      | some word => .error (.misuse (.badValue operand.name word))
      | none => .ok { rest with operands := rest.operands ++ words }

/-- Reads an option with the value that is attached to it, if any. Without one the option waits
for the next word. -/
def option (level : Level) (found : Found) (opt : Opt) (attached : Option String) :
    Except Stop Found := do
  let settled ← found.settle level
  match opt.action, attached with
  | .valued _, none => return { settled with pending := .option opt none }
  | _, _ => settled.act opt attached

/-- Reads the word of a long option, without its dashes. -/
def long (level : Level) (found : Found) (body : List Char) : Except Stop Found :=
  let (name, attached) :=
    match splitOnce '=' body with
    | some (name, value) => (name, some (String.ofList value))
    | none => (body, none)
  match level.long? name with
  | none => .error (.misuse (.unknownArgument ("--" ++ String.ofList name)))
  | some opt =>
    match opt.action, attached with
    | .valued _, _ | _, none => found.option level opt attached
    | _, some value => .error (.misuse (.unexpectedValue opt.display value))

/-- The value attached to a short option: what follows it, less an equals sign in front. -/
def attachedTo : List Char → Option String
  | [] => none
  | '=' :: value => some (String.ofList value)
  | value => some (String.ofList value)

/-- Reads a cluster of short options; one that takes a value takes the rest of the cluster. -/
def cluster (level : Level) (found : Found) : List Char → Except Stop Found
  | [] => .ok found
  | c :: rest =>
    match level.short? c with
    | none => .error (.misuse (.unknownArgument ("-" ++ String.singleton c)))
    | some opt =>
      match opt.action with
      -- What follows in the cluster is the value, not more options.
      | .valued _ => found.option level opt (attachedTo rest)
      | _ => do (← found.option level opt none).cluster level rest

/-- The fault of an operand that has no place. -/
def strayWord (level : Level) (literal : Bool) (word : String) : Misuse :=
  if !level.verbs || (literal && (level.verb? word).isSome) then .unknownArgument word
  else .unknownCommand word

/-- Whether the level has room for one more operand. -/
def hasRoom (found : Found) (operand : Operand) : Bool :=
  operand.many ||
    match found.pending with
    | .operands _ => false
    | _ => found.operands.isEmpty

/-- Reads an operand; `literal` tells that it stands behind a double dash. -/
def operand (level : Level) (found : Found) (literal : Bool) (word : String) :
    Except Stop Found :=
  match level.operand with
  | none => .error (.misuse (strayWord level literal word))
  | some operand =>
    if found.hasRoom operand then
      match found.pending with
      | .operands words => .ok { found with pending := .operands (words ++ [word]) }
      | _ => do return { ← found.settle level with pending := .operands [word] }
    else .error (.misuse (strayWord level literal word))

/-- Reads a word that is neither the name of a command nor a double dash. -/
def word (level : Level) (found : Found) (w : String) : Except Stop Found :=
  match w.toList with
  | '-' :: '-' :: body => found.long level body
  | '-' :: c :: rest => found.cluster level (c :: rest)
  | _ =>
    match found.pending with
    | .option opt none => .ok { found with pending := .option opt (some w) }
    | _ => found.operand level false w

/-- Whether a setting was given. -/
def has (found : Found) (setting : Setting) : Bool :=
  found.settings.any fun (_, s) => s == setting

end Found

namespace Level

/-- Reads the words behind a double dash: all of them are operands. -/
def scanLiteral (level : Level) : Found → List String → Except Stop Found
  | found, [] => .ok found
  | found, w :: rest => do scanLiteral level (← found.operand level true w) rest

/-- Reads the words of a level up to the name of a command, which is returned with the words
behind it. Something may be left pending. -/
def scan (level : Level) :
    Found → List String → Except Stop (Found × Option (Verb × List String))
  | found, [] => .ok (found, none)
  | found, w :: rest =>
    -- The word behind an option that lacks its value is that value, even if it names a command.
    match if found.isAwaiting then none else level.verb? w with
    | some verb => .ok (found, some (verb, rest))
    | none =>
      if w == "--" then do return (← level.scanLiteral found rest, none)
      else do level.scan (← found.word level w) rest

end Level

/-! ## Reading a line -/

/-- What the words behind the help command lead to: each has to name a command of the one
before, and only the program itself has commands. -/
def helpOn : List String → Stop
  | [] => .help
  | [w] => if (Verb.ofText? w).isSome then .help else .misuse (.unknownCommand w)
  | w :: v :: _ => .misuse (.unknownCommand (if (Verb.ofText? w).isSome then v else w))

/-- The addresses that the options and operands of the address command ask for. -/
def urlQuery (found : Found) : Except Stop UrlQuery :=
  let server := found.has .server
  let assets := found.has .assets
  let links := found.operands
  if server && assets then .error (.misuse (.conflict Opt.server.display Opt.assets.display))
  else if server && !links.isEmpty then .error (.misuse (.conflict Opt.server.display "LINK"))
  else if assets && !links.isEmpty then .error (.misuse (.conflict Opt.assets.display "LINK"))
  else if server then .ok .server
  else if assets then .ok .assets
  else .ok (.pages links)

/-- The command that a verb with its options and operands stands for. -/
def command (verb : Verb) (found : Found) : Except Stop Command :=
  match verb with
  | .init => .ok (.init (found.operands.head?.map Path.mk) (found.has .force))
  | .check => .ok .check
  | .url => return .url (← urlQuery found)
  | .resolve =>
    if found.operands.isEmpty then .error (.misuse (.missingOperand "CLASS"))
    else .ok (.resolve found.operands)
  | .content => .ok .content
  | .render =>
    match found.operands.head?.bind ExportTarget.ofText? with
    | none => .error (.misuse (.missingOperand "WHAT"))
    | some target =>
      .ok (.render target (found.settings.findSome? fun
        | (_, .output file) => some file
        | _ => none))
  | .help => .error .help

/-- The invocation of a command under settings, of which the first of a kind counts. -/
def invocation (settings : List (String × Setting)) (command : Command) : Invocation where
  color := (settings.findSome? fun
    | (_, .color choice) => some choice
    | _ => none).getD .auto
  config := (settings.findSome? fun
    | (_, .config file) => some file
    | _ => none).getD ⟨Starter.configFile⟩
  verbose := settings.any fun (_, s) => s == .verbose
  command

/-- Reads the words behind the name of the program. Settings may stand before or behind the name
of the command, and those behind it count. -/
def parse (words : List String) : Except Stop Invocation := do
  match ← Level.outer.scan {} words with
  | (found, none) =>
    let found ← found.settle Level.outer
    .error (.misuse (if found.settings.isEmpty then .nothingGiven else .missingCommand))
  | (_, some (.help, rest)) => .error (helpOn rest)
  | (outer, some (verb, rest)) =>
    let level := Level.ofVerb verb
    let (inner, _) ← level.scan {} rest
    -- The faults of the command come before those held back in front of it.
    let inner ← inner.settle level
    let command ← command verb inner
    let outer ← outer.settle Level.outer
    -- The settings behind the command come first, so they count.
    return invocation (inner.settings ++ outer.settings) command

end DocSite.CommandLine
