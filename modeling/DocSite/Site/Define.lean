import DocSite.Diagnostics
import DocSite.Instant
import DocSite.Json.Basic
import DocSite.Table
import DocSite.Text.Blank
import DocSite.Toml.Decode

/-!
# Defines

  Constants that the bundler replaces: names with expressions, or with values that
  are known when the build starts.
-/

namespace DocSite

open DocSite.Text

/-- Values that are computed when a build starts. -/
inductive Builtin where
  | buildDate
  | buildTimestamp
  deriving DecidableEq, Repr

/-- The name of a computed value. -/
def Builtin.name : Builtin → String
  | .buildDate => "build-date"
  | .buildTimestamp => "build-timestamp"

/-- The computed values by name. -/
def Builtin.choices : List (String × Builtin) :=
  [.buildDate, .buildTimestamp].map fun b => (b.name, b)

/-- What a constant stands for. -/
inductive Define where
  | expr (text : String)
  | builtin (value : Builtin)
  deriving DecidableEq, Repr

namespace Define

/-- The expression of a constant in a build that starts at an instant. -/
def resolve (now : Instant) : Define → String
  | .expr text => text
  | .builtin .buildDate => "\"" ++ now.text ++ "\""
  | .builtin .buildTimestamp => toString now.millis

/-- Reads a constant: an expression, or a table that names a computed value. -/
def decode : Toml.Decoder Define
  | _, .string text => pure (.expr text)
  | _, v =>
    match v.entries?.bind (Table.lookup "builtin") with
    | some (.string name) =>
      match Table.lookup name Builtin.choices with
      | some b => pure (.builtin b)
      | none => throw (.noVariant "DefineValue")
    | _ => throw (.noVariant "DefineValue")

/-! ## Checks -/

/-- The start of an identifier. -/
def isIdentStart (c : Char) : Bool := c.isAlpha || c == '_' || c == '$'

/-- Whether a text is an identifier. -/
def isIdent : List Char → Bool
  | [] => false
  | c :: cs => isIdentStart c && cs.all fun c => isIdentStart c || c.isDigit

/-- Whether a text is an identifier or a path of members. -/
def isName (cs : List Char) : Bool := (splitOn '.' cs).all isIdent

/-- Whether an expression starts with a quote that does not end it. -/
def isUnterminated : List Char → Bool
  | [] => false
  | q :: rest => ['"', '\'', '\x60'].contains q && rest.getLast? != some q

/-- Identifiers that are values of their own. -/
def literalWords : List String := ["true", "false", "null", "undefined"]

/-- Checks the expression of a constant. -/
def checkExpr (field : FieldPath) (expr : List Char) : Diagnostics :=
  let text := String.ofList expr
  if expr.isEmpty then .error field "expression must not be empty"
  else if isUnterminated expr then
    .error field ("unterminated string literal in " ++ ticked text)
  else
    .when (isName expr && !literalWords.contains text)
      (.warning field (ticked text ++ " is an identifier reference; quote it to define a string"))

/-- Checks a constant. -/
def check (field : FieldPath) (name : String) (value : Define) : Diagnostics :=
  if !isName name.toList then
    .errorWithHint field (ticked name ++ " is not a valid identifier")
      "define names look like `__DATE__` or `import.meta.env.FLAG`"
  else
    match value with
    | .builtin _ => .none
    | .expr text => checkExpr field (trimBoth text.toList)

/-! ## Writing -/

/-- A constant as TOML. -/
def toToml : Define → Toml.Value
  | .expr text => .string text
  | .builtin b => .table [("builtin", .string b.name)]

end Define

/-- The constants of a build by name. -/
structure Defines where
  table : Table Define

namespace Defines

/-- No constants. -/
def empty : Defines := ⟨.empty⟩

instance : Inhabited Defines := ⟨empty⟩

/-- The record of the section that holds the constants. -/
def record : Toml.RecordType Defines where
  name := "ViteConfig"
  fields := [Toml.field "define" (Toml.decodeTable Define.decode) fun x _ => ⟨x⟩]

/-- Reads the section. -/
def decode : Toml.Decoder Defines := Toml.decodeRecord record empty

/-- Checks every constant. -/
def diagnostics (d : Defines) : Diagnostics :=
  .concat (d.table.entries.map fun (name, value) =>
    Define.check (FieldPath.key ⟨"vite.define"⟩ name) name value)

/-- The section as a table. -/
def toToml (d : Defines) : Toml.Value :=
  .table [("define", .table (d.table.entries.map fun (name, value) => (name, value.toToml)))]

/-- The section for the site generator in a build that starts at an instant. -/
def toJson (d : Defines) (now : Instant) : Json :=
  .object
    [("define", .object (d.table.entries.map fun (name, value) =>
      (name, .string (value.resolve now))))]

end Defines

end DocSite
