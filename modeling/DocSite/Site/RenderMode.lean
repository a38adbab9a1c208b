import DocSite.Toml.Decode

/-!
# Render modes

  Whether pages are produced when the site is built or when they are asked for.
-/

namespace DocSite

/-- When pages are rendered. -/
inductive RenderMode where
  /-- Every page at build time. -/
  | static
  /-- Every page on request. -/
  | server
  /-- At build time, unless a page asks for the server. -/
  | hybrid
  deriving DecidableEq, Repr

namespace RenderMode

/-- Whether the built site needs a server. -/
def needsServer : RenderMode → Bool
  | .static => false
  | _ => true

/-- The name of a mode. -/
def name : RenderMode → String
  | .static => "static"
  | .server => "server"
  | .hybrid => "hybrid"

/-- The modes by name. -/
def choices : List (String × RenderMode) :=
  [.static, .server, .hybrid].map fun mode => (mode.name, mode)

/-- Reads a mode. -/
def decode : Toml.Decoder RenderMode := Toml.decodeChoice choices

end RenderMode

end DocSite
