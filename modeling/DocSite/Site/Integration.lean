import DocSite.Diagnostics
import DocSite.Glob.Pattern
import DocSite.Json.CamelCase
import DocSite.Path
import DocSite.Toml.Decode

/-!
# Integrations

  The plugins of the site generator: an ordered list of records, each with the
  name of its plugin and the options that plugin has. Names and options that are
  not known are refused.
-/

namespace DocSite

open DocSite.Text

/-! ## Options -/

/-- Options of utility styles. -/
structure TailwindOptions where
  applyBaseStyles : Bool := true
  configFile : Path := ⟨"theme.toml"⟩
  nesting : Bool := false
  deriving DecidableEq, Repr

/-- Options of the component framework: which files hold components. -/
structure ReactOptions where
  included : List String := []
  excluded : List String := []
  deriving DecidableEq, Repr

/-- Options of long-form documents. -/
structure MdxOptions where
  extendMarkdown : Bool := true
  gfm : Bool := true
  deriving DecidableEq, Repr

/-- How often pages are said to change. -/
inductive ChangeFrequency where
  | always
  | hourly
  | daily
  | weekly
  | monthly
  | yearly
  | never
  deriving DecidableEq, Repr

/-- The name of a frequency. -/
def ChangeFrequency.name : ChangeFrequency → String
  | .always => "always"
  | .hourly => "hourly"
  | .daily => "daily"
  | .weekly => "weekly"
  | .monthly => "monthly"
  | .yearly => "yearly"
  | .never => "never"

/-- The frequencies by name. -/
def ChangeFrequency.choices : List (String × ChangeFrequency) :=
  [.always, .hourly, .daily, .weekly, .monthly, .yearly, .never].map fun f => (f.name, f)

/-- Options of the site map. -/
structure SitemapOptions where
  changefreq : Option ChangeFrequency := none
  priority : Option Binary64 := none
  deriving DecidableEq, Repr

/-- How a generated server is started. -/
inductive NodeMode where
  /-- A server of its own. -/
  | standalone
  /-- A handler inside another server. -/
  | middleware
  deriving DecidableEq, Repr

/-- The name of a mode. -/
def NodeMode.name : NodeMode → String
  | .standalone => "standalone"
  | .middleware => "middleware"

/-- The modes by name. -/
def NodeMode.choices : List (String × NodeMode) :=
  [.standalone, .middleware].map fun mode => (mode.name, mode)

/-- An enabled plugin with its options. -/
inductive Integration where
  | tailwind (options : TailwindOptions)
  | react (options : ReactOptions)
  | mdx (options : MdxOptions)
  | sitemap (options : SitemapOptions)
  | node (mode : NodeMode)
  deriving DecidableEq, Repr

namespace Integration

/-! ## What a plugin is -/

/-- The name of a plugin. -/
def name : Integration → String
  | .tailwind _ => "tailwind"
  | .react _ => "react"
  | .mdx _ => "mdx"
  | .sitemap _ => "sitemap"
  | .node _ => "node"

/-- The package that the site generator loads. -/
def package (i : Integration) : String := "@astrojs/" ++ i.name

/-- Whether the plugin runs pages on a server; such a plugin is an adapter. -/
def isAdapter : Integration → Bool
  | .node _ => true
  | _ => false

/-- Whether the plugin needs the address of the site. -/
def needsSite : Integration → Bool
  | .sitemap _ => true
  | _ => false

/-! ## Checks -/

/-- Checks the options of utility styles. -/
def checkTailwind (field : FieldPath) (options : TailwindOptions) : Diagnostics :=
  let file := options.configFile
  if file.isAbsolute then
    .errorWithHint (field.key "config_file") (ticked file.text ++ " must be relative")
      "the theme file is resolved against the project root"
  else
    .when (file.extension? != some "toml")
      (.error (field.key "config_file") (ticked file.text ++ " is not a .toml file"))

/-- Checks a list of patterns. -/
def checkPatterns (field : FieldPath) (patterns : List String) : Diagnostics :=
  .forItems patterns fun i pattern =>
    match Glob.parse pattern with
    | .ok _ => .none
    | .error e =>
      .error (field.index i)
        ("malformed glob: error parsing glob '" ++ pattern ++ "': " ++ e.message)

/-- Checks that a priority, if there is one, lies between zero and one. -/
def checkPriority (field : FieldPath) (priority : Option Binary64) : Diagnostics :=
  match priority with
  | none => .none
  | some p =>
    .when (!((Binary64.ofInt 0).le p && p.le (Binary64.ofInt 1)))
      (.error (field.key "priority") ("priority " ++ p.text ++ " is outside 0.0..=1.0"))

/-- Checks the options of a plugin; `field` is its place in the list. -/
def diagnostics (field : FieldPath) : Integration → Diagnostics
  | .tailwind options => checkTailwind field options
  | .react options =>
    checkPatterns (field.key "include") options.included ++
      checkPatterns (field.key "exclude") options.excluded
  | .sitemap options => checkPriority field options.priority
  | .mdx _ => .none
  | .node _ => .none

/-! ## Reading -/

open Toml

/-- The record of the options of utility styles. -/
def tailwindRecord : RecordType TailwindOptions where
  name := "TailwindOptions"
  unknown := .refused
  fields :=
    [field "apply_base_styles" decodeBool fun x r => { r with applyBaseStyles := x },
      field "config_file" decodePath fun x r => { r with configFile := ⟨x⟩ },
      field "nesting" decodeBool fun x r => { r with nesting := x }]

/-- The record of the options of the component framework. -/
def reactRecord : RecordType ReactOptions where
  name := "ReactOptions"
  unknown := .refused
  fields :=
    [field "include" (decodeList decodeString) fun x r => { r with included := x },
      field "exclude" (decodeList decodeString) fun x r => { r with excluded := x }]

/-- The record of the options of long-form documents. -/
def mdxRecord : RecordType MdxOptions where
  name := "MdxOptions"
  unknown := .refused
  fields :=
    [field "extend_markdown_config" decodeBool fun x r => { r with extendMarkdown := x },
      field "gfm" decodeBool fun x r => { r with gfm := x }]

/-- The record of the options of the site map. -/
def sitemapRecord : RecordType SitemapOptions where
  name := "SitemapOptions"
  unknown := .refused
  fields :=
    [field "changefreq" (decodeOptional (decodeWholeChoice ChangeFrequency.choices))
        fun x r => { r with changefreq := x },
      field "priority" (decodeOptional decodeFloat) fun x r => { r with priority := x }]

/-- The record of the options of the server, whose one field must be there. -/
def nodeRecord : RecordType (Option NodeMode) where
  name := "NodeOptions"
  unknown := .refused
  hasDefaults := false
  fields := [field "mode" (decodeWholeChoice NodeMode.choices) fun x _ => some x]

/-- Reads the options of the server. -/
def decodeNode : Decoder Integration := fun spot v => do
  match ← decodeRecord nodeRecord none spot v with
  | some mode => return .node mode
  | none => throw (.missingField "mode")

/-- The plugins by name, with the readers of their options. -/
def kinds : List (String × Decoder Integration) :=
  [("tailwind", fun spot v => return .tailwind (← decodeRecord tailwindRecord {} spot v)),
    ("react", fun spot v => return .react (← decodeRecord reactRecord {} spot v)),
    ("mdx", fun spot v => return .mdx (← decodeRecord mdxRecord {} spot v)),
    ("sitemap", fun spot v => return .sitemap (← decodeRecord sitemapRecord {} spot v)),
    ("node", decodeNode)]

/-- The plugin that a value names. -/
def decodeKind : Value → Decode (Decoder Integration)
  | .string name => choose kinds name
  | v => throw (.invalidType v "variant identifier")

/-- Reads a plugin: a table with a name, or an array that starts with it. The rest is read as a
whole. -/
def decode : Decoder Integration := fun spot v =>
  match v.entries?, v with
  | some entries, _ =>
    match Table.lookup "name" entries with
    | none => throw (.missingField "name")
    | some tag => do
      let options ← decodeKind tag
      options spot.asWhole (.table (entries.filter fun (key, _) => key != "name"))
  | none, .array [] => throw (.missingField "name")
  | none, .array (tag :: rest) => do
    let options ← decodeKind tag
    options spot.asWhole (.array rest)
  | none, v => throw (.invalidType v "internally tagged enum Integration")

/-! ## Writing -/

/-- The options of a plugin as they are written. -/
def options : Integration → List (String × Value)
  | .tailwind o =>
    [("apply_base_styles", .boolean o.applyBaseStyles), ("config_file", .string o.configFile.text),
      ("nesting", .boolean o.nesting)]
  | .react o => [("include", .strings o.included), ("exclude", .strings o.excluded)]
  | .mdx o => [("extend_markdown_config", .boolean o.extendMarkdown), ("gfm", .boolean o.gfm)]
  | .sitemap o =>
    (o.changefreq.map fun f => ("changefreq", Value.string f.name)).toList ++
      (o.priority.map fun p => ("priority", Value.float p)).toList
  | .node mode => [("mode", .string mode.name)]

/-- A plugin as a table. -/
def toToml (i : Integration) : Value := .table (("name", .string i.name) :: i.options)

/-- A value of an option as JSON. -/
def optionJson : Value → Json
  | .boolean b => .bool b
  | .float x => .number x
  | .string s => .string s
  | .array items =>
    .array (items.map fun
      | .string s => .string s
      | _ => .null)
  | _ => .null

/-- A list with its last item moved to the front. -/
def lastFirst {α : Type} (items : List α) : List α :=
  items.getLast?.toList ++ items.dropLast

/-- A plugin for the site generator: its package and its options, the last option first. -/
def toJson (i : Integration) : Json :=
  .object
    [("package", .string i.package),
      ("options", Json.camelKeys
        (.object (lastFirst (i.options.map fun (key, v) => (key, optionJson v)))))]

/-! ## Equality -/

/-- Equality of optional numbers by value. -/
def samePriority : Option Binary64 → Option Binary64 → Bool
  | none, none => true
  | some x, some y => x.eqValue y
  | _, _ => false

/-- Equality of plugins, with numbers compared by value. -/
def sameAs : Integration → Integration → Bool
  | .sitemap a, .sitemap b => a.changefreq == b.changefreq && samePriority a.priority b.priority
  | a, b => a == b

end Integration

end DocSite
