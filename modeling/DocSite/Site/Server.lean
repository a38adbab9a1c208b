import DocSite.BasePath
import DocSite.Diagnostics
import DocSite.Ip
import DocSite.Json.Basic
import DocSite.Toml.Decode

/-!
# The development server

  Where the server listens while a site is written: a port, and a host that is an
  address or a name.
-/

namespace DocSite

open DocSite.Text

/-! ## Hosts -/

/-- The host that a server binds to. -/
inductive ServerHost where
  | address (ip : IpAddress)
  | name (text : String)
  deriving DecidableEq, Repr

namespace ServerHost

/-- A host as it is written: an address if it is one, else a name. -/
def ofText (s : String) : ServerHost :=
  match IpAddress.parse? (trim s) with
  | some ip => .address ip
  | none => .name (trim s)

/-- The text of a host. -/
def text : ServerHost → String
  | .address ip => ip.text
  | .name s => s

/-- Whether other machines can reach the host. -/
def isExposed : ServerHost → Bool
  | .address ip => !ip.isLoopback
  | .name s => s != "localhost"

/-- The host as part of a URL. -/
def urlText : ServerHost → String
  | .address (.v6 groups) => "[" ++ (IpAddress.v6 groups).text ++ "]"
  | host => host.text

/-- Whether a label is made of letters and digits with hyphens inside. -/
def isLabel (label : List Char) : Bool :=
  !label.isEmpty && label.length ≤ 63 && label.head? != some '-' && label.getLast? != some '-' &&
    label.all fun c => c.isAlphanum || c == '-'

/-- Whether a text is a host name: labels separated by dots. -/
def isHostName (s : String) : Bool :=
  !s.isEmpty && s.length ≤ 253 && (splitOn '.' s.toList).all isLabel

/-- Reads a host: a text, or a boolean that tells whether to listen on all addresses. -/
def decode : Toml.Decoder ServerHost
  | _, .boolean true => pure (.address (.v4 0))
  | _, .boolean false => pure (.name "localhost")
  | _, .string s => pure (ofText s)
  | _, _ => throw (.noVariant "Raw")

end ServerHost

/-! ## Servers -/

/-- Where the development server listens. -/
structure Server where
  port : Nat := 4321
  host : ServerHost := .name "localhost"
  deriving DecidableEq, Repr

namespace Server

/-- The record of a server. -/
def record : Toml.RecordType Server where
  name := "ServerConfig"
  fields :=
    [Toml.field "port" Toml.decodePort fun x r => { r with port := x },
      Toml.field "host" ServerHost.decode fun x r => { r with host := x }]

/-- Reads a server. -/
def decode : Toml.Decoder Server := Toml.decodeRecord record {}

/-- Checks the port. -/
def checkPort (port : Nat) : Diagnostics :=
  if port = 0 then
    .errorWithHint ⟨"server.port"⟩ "port must be non-zero" "use a free port such as 4321"
  else
    .when (port < 1024)
      (.warning ⟨"server.port"⟩ ("port " ++ toString port ++ " is privileged on most systems"))

/-- Checks the host. -/
def checkHost : ServerHost → Diagnostics
  | .address _ => .none
  | .name s =>
    .when (!ServerHost.isHostName s)
      (.errorWithHint ⟨"server.host"⟩
        (ticked s ++ " is neither an IP address nor a valid hostname")
        "use \"localhost\", \"0.0.0.0\" or a DNS name")

/-- Checks a server. -/
def diagnostics (s : Server) : Diagnostics := checkPort s.port ++ checkHost s.host

/-- The URL of the first page on the development server. -/
def listenUrl (s : Server) (base : BasePath) : String :=
  "http://" ++ s.host.urlText ++ ":" ++ toString s.port ++ base.text ++ "/"

/-- A server as a table. -/
def toToml (s : Server) : Toml.Value :=
  .table [("port", .integer s.port), ("host", .string s.host.text)]

/-- A server for the site generator. -/
def toJson (s : Server) : Json :=
  .object [("port", .integer s.port), ("host", .string s.host.text)]

end Server

end DocSite
