import DocSite.Log
import DocSite.Site.BuildOutput
import DocSite.Site.Define
import DocSite.Site.Integration
import DocSite.Site.Markdown
import DocSite.Site.RenderMode
import DocSite.Site.Server
import DocSite.SiteOrigin
import DocSite.Toml.Printer
import DocSite.Toml.Reader

/-!
# Site configurations

  The record of a site: its address, the path it is served under, how it is
  rendered, and the settings of the tools that build it. A record can be read from
  TOML, written back, checked as a whole, and exported for the site generator.
-/

namespace DocSite

open DocSite.Text

/-- The settings of a site. -/
structure SiteConfig where
  site : Option SiteOrigin := none
  base : BasePath := .root
  output : RenderMode := .static
  integrations : List Integration := []
  server : Server := {}
  build : BuildOutput := {}
  markdown : Highlighting := {}
  defines : Defines := .empty

/-- A record that was read: with the keys that mean nothing, and what is to be logged. -/
structure SiteReading where
  config : SiteConfig
  unknownKeys : List String
  log : String

namespace SiteConfig

/-! ## Reading -/

/-- Reads an address or a path through its own reader. -/
def decodeAddress {α : Type} (parse : String → Except AddressError α) : Toml.Decoder α :=
  fun spot v => do
    match parse (← Toml.decodeString spot v) with
    | .ok x => return x
    | .error e => throw (.other e.message)

/-- The record of a site. -/
def record : Toml.RecordType SiteConfig where
  name := "SiteConfig"
  fields :=
    [Toml.field "site" (Toml.decodeOptional (decodeAddress SiteOrigin.parse))
        fun x r => { r with site := x },
      Toml.field "base" (decodeAddress BasePath.parse) fun x r => { r with base := x },
      Toml.field "output" RenderMode.decode fun x r => { r with output := x },
      Toml.field "integrations" (Toml.decodeList Integration.decode)
        fun x r => { r with integrations := x },
      Toml.field "server" Server.decode fun x r => { r with server := x },
      Toml.field "build" BuildOutput.decode fun x r => { r with build := x },
      Toml.field "markdown" Highlighting.decode fun x r => { r with markdown := x },
      Toml.field "vite" Defines.decode fun x r => { r with defines := x }]

/-- Reads a record as it is written. -/
def decode : Toml.Decoder SiteConfig := Toml.decodeRecord record {}

/-- Moves a path that the address carries into the base, if no base is set. The second part is
what is logged about it. -/
def syncBase (c : SiteConfig) : SiteConfig × String :=
  match c.site with
  | none => (c, "")
  | some site =>
    if !c.base.isRoot || site.path.isEmpty then (c, "")
    else
      match BasePath.parse site.path with
      | .error _ => (c, "")
      | .ok base =>
        ({ c with base, site := (SiteOrigin.parse site.origin).toOption },
          Log.line "config" ("using base " ++ ticked base.display ++ " from site URL"))

/-- Reads the record of a document. -/
def parse (text : String) : Except Toml.DocumentError SiteReading :=
  match Toml.parse? text with
  | none => .error .malformed
  | some entries =>
    match Toml.decodeDocument decode entries with
    | .error e => .error (.unfit e)
    | .ok (config, unknownKeys) =>
      let (config, log) := config.syncBase
      .ok { config, unknownKeys, log }

/-! ## Addresses -/

/-- The address of the first page, when the site has one. -/
def canonicalUrl (c : SiteConfig) : Option String :=
  c.site.map fun site => site.canonicalUrl c.base

/-- The public address of a link: below the address of the site if it has one, else a path. -/
def pageUrl (c : SiteConfig) (link : String) : String :=
  let path := c.base.join link
  match c.site with
  | none => path
  | some site =>
    match path.toList with
    | '/' :: '/' :: _ => path
    | '/' :: _ => site.origin ++ path
    | _ => path

/-- The public addresses of links; of the first page if there are none. -/
def urls (c : SiteConfig) (links : List String) : List String :=
  if links.isEmpty then [c.canonicalUrl.getD (c.base.join "")] else links.map c.pageUrl

/-- The public address of the assets. -/
def assetsUrl (c : SiteConfig) : String := c.build.assetsUrl c.base

/-- The address of the first page on the development server. -/
def listenUrl (c : SiteConfig) : String := c.server.listenUrl c.base

/-! ## Files -/

/-- The index and the options of the plugin for utility styles. -/
def tailwind? (c : SiteConfig) : Option (Nat × TailwindOptions) :=
  c.integrations.zipIdx.findSome? fun
    | (.tailwind options, i) => some (i, options)
    | _ => none

/-- The theme file of a project, if utility styles are enabled. -/
def themePath? (c : SiteConfig) (root : Path) : Option Path :=
  c.tailwind?.map fun (_, options) => root.join options.configFile

/-- The output directory of a project. -/
def outputDir (c : SiteConfig) (root : Path) : Path := c.build.outputDir root

/-! ## Checks -/

/-- Checks that the address carries no path when the base is set too. -/
def checkSite (c : SiteConfig) : Diagnostics :=
  match c.site with
  | none => .none
  | some site =>
    .when (!site.path.isEmpty && !c.base.isRoot)
      (.errorWithHint ⟨"site"⟩
        ("site URL carries the path " ++ ticked ("/" ++ site.path) ++ " and `base` is also set")
        "keep only the origin in `site` and put the path in `base`")

/-- The place of a plugin. -/
def integrationField (i : Nat) : FieldPath := FieldPath.index ⟨"integrations"⟩ i

/-- The index of the first plugin with a name. -/
def firstIndex? (integrations : List Integration) (name : String) : Option Nat :=
  integrations.findIdx? (·.name == name)

/-- Checks one plugin against the rest of the record. -/
def checkIntegration (c : SiteConfig) (i : Nat) (integration : Integration) : Diagnostics :=
  let field := integrationField i
  let name := ticked integration.name
  integration.diagnostics field ++
    (match firstIndex? (c.integrations.take i) integration.name with
    | some first =>
      .error field
        ("integration " ++ name ++ " is already enabled at " ++ (integrationField first).text)
    | none => .none) ++
    .when (integration.isAdapter && !c.output.needsServer)
      (.errorWithHint field
        (name ++ " requires a server runtime but output is " ++ ticked c.output.name)
        "set output = \"server\" or \"hybrid\", or remove the integration") ++
    .when (integration.needsSite && c.site.isNone)
      (.errorWithHint field (name ++ " needs absolute URLs")
        "set `site` to the deployed origin")

/-- The indices of the server adapters. -/
def adapters (c : SiteConfig) : List Nat :=
  (c.integrations.zipIdx.filter fun (integration, _) => integration.isAdapter).map Prod.snd

/-- Checks that a mode with a server has one adapter. -/
def checkAdapters (c : SiteConfig) : Diagnostics :=
  .when (c.output.needsServer && c.adapters.isEmpty)
    (.errorWithHint ⟨"output"⟩ ("output " ++ ticked c.output.name ++ " needs a server adapter")
      "add [[integrations]] name = \"node\"") ++
  match c.adapters with
  | _ :: second :: _ =>
    .error (integrationField second) "only one server adapter may be enabled"
  | _ => .none

/-- Checks the plugins. -/
def checkIntegrations (c : SiteConfig) : Diagnostics :=
  .forItems c.integrations c.checkIntegration ++ c.checkAdapters

/-- Checks the whole record. -/
def diagnostics (c : SiteConfig) : Diagnostics :=
  c.checkSite ++ c.checkIntegrations ++ c.server.diagnostics ++ c.build.diagnostics ++
    c.markdown.diagnostics ++ c.defines.diagnostics

/-! ## Writing -/

/-- The record as a table. -/
def toToml (c : SiteConfig) : List (String × Toml.Value) :=
  (c.site.map fun site => ("site", Toml.Value.string site.display)).toList ++
    [("base", .string c.base.display), ("output", .string c.output.name),
      ("integrations", .array (c.integrations.map Integration.toToml)),
      ("server", c.server.toToml), ("build", c.build.toToml), ("markdown", c.markdown.toToml),
      ("vite", c.defines.toToml)]

/-- The record as a document. -/
def toTomlText (c : SiteConfig) : String := Toml.render c.toToml

/-- The record for the site generator in a build that starts at an instant. -/
def toJson (c : SiteConfig) (now : Instant) : Json :=
  .object
    ((c.site.map fun site => ("site", Json.string site.origin)).toList ++
      [("base", .string c.base.display), ("output", .string c.output.name),
        ("outDir", .string c.build.outDir.text),
        ("integrations", .array (c.integrations.map Integration.toJson)),
        ("server", c.server.toJson),
        ("build", .object [("assets", .string c.build.assets)]),
        ("markdown", c.markdown.toJson), ("vite", c.defines.toJson now)])

/-! ## Equality -/

/-- Equality of lists of plugins. -/
def sameIntegrations : List Integration → List Integration → Bool
  | [], [] => true
  | a :: as, b :: bs => a.sameAs b && sameIntegrations as bs
  | _, _ => false

/-- Equality of records: numbers by value, constants in any order. -/
def sameAs (c d : SiteConfig) : Bool :=
  c.site == d.site && c.base == d.base && c.output == d.output &&
    sameIntegrations c.integrations d.integrations && c.server == d.server &&
    c.build == d.build && c.markdown == d.markdown && c.defines.table.sameAs d.defines.table

/-- Whether writing and reading a record gives it back. -/
def roundTrips (c : SiteConfig) : Bool :=
  match parse c.toTomlText with
  | .ok reading => c.sameAs reading.config
  | .error _ => false

end SiteConfig

end DocSite
