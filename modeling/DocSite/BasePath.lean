import DocSite.Text.Blank
import DocSite.Text.Quoted
import DocSite.Url.Scheme

/-!
# Base paths

  The public path under which every page of a site is served. A base path is
  either the root, kept as the empty text, or `/` and segments separated by
  single slashes. Joining a link puts the base in front of it exactly once.
-/

namespace DocSite

open DocSite.Text

/-! ## Errors -/

/-- Why an address or a base path is refused. -/
inductive AddressError where
  | malformed (text : String)
  | scheme (found : String)
  | queryOrFragment
  | emptySegment
  | dotSegment (segment : String)
  | invalidChar (c : Char)
  | badEscape (segment : String)
  deriving DecidableEq, Repr

/-- The text of an error. -/
def AddressError.message : AddressError → String
  | .malformed text => ticked text ++ " is not a valid URL"
  | .scheme found => "site URL must use http or https, found " ++ ticked found
  | .queryOrFragment => "site URL must not carry a query string or fragment"
  | .emptySegment => "base path contains an empty segment"
  | .dotSegment segment => "base path segment " ++ ticked segment ++ " is not allowed"
  | .invalidChar c => "base path contains invalid character " ++ quoteChar c
  | .badEscape segment =>
    "base path segment " ++ ticked segment ++ " has a `%` not followed by two hex digits"

/-! ## The grammar of segments -/

/-- The characters that stand for themselves in a URL path. -/
def isPathChar (c : Char) : Bool :=
  c.isAlphanum || ['-', '.', '_', '~', '!', '$', '&', '\'', '(', ')', '*', '+', ',', ';', '=', ':',
    '@'].contains c

/-- Every `%` starts an escape of two hexadecimal digits. -/
def hasValidEscapes : List Char → Bool
  | [] => true
  | '%' :: a :: b :: rest => isHexDigit a && isHexDigit b && hasValidEscapes rest
  | c :: rest => c != '%' && hasValidEscapes rest

/-- Checks one segment of a base path. -/
def checkSegment (segment : List Char) : Except AddressError Unit :=
  if segment.isEmpty then .error .emptySegment
  else if segment = ['.'] || segment = ['.', '.'] then
    .error (.dotSegment (String.ofList segment))
  else
    match segment.find? fun c => !isPathChar c && c != '%' with
    | some c => .error (.invalidChar c)
    | none =>
      if hasValidEscapes segment then .ok () else .error (.badEscape (String.ofList segment))

/-- Checks segments in order. -/
def checkSegments : List (List Char) → Except AddressError Unit
  | [] => .ok ()
  | segment :: rest => do
    checkSegment segment
    checkSegments rest

/-! ## Base paths -/

/-- A public base path: empty for the root, else `/` and the segments. -/
structure BasePath where
  text : String
  deriving DecidableEq, Repr

namespace BasePath

/-- The root. -/
def root : BasePath := ⟨""⟩

instance : Inhabited BasePath := ⟨root⟩

/-- What is left of a written base path without the blanks around it and one slash at each
end. -/
def inner (s : String) : List Char := dropLast '/' (dropFirst '/' (trimBoth s.toList))

/-- Reads a base path; a slash at the front may be missing, one at the back is dropped. -/
def parse (s : String) : Except AddressError BasePath :=
  let body := inner s
  if body.isEmpty then .ok root
  else do
    checkSegments (splitOn '/' body)
    return ⟨String.ofList ('/' :: body)⟩

/-- Whether the base is the root. -/
def isRoot (b : BasePath) : Bool := b.text.isEmpty

/-- The base as it is written, the root as `/`. -/
def display (b : BasePath) : String := if b.isRoot then "/" else b.text

end BasePath

/-! ## Links -/

/-- Whether a link leaves the site: it names a scheme or a host, or only a fragment. -/
def isExternal (link : List Char) : Bool :=
  startsWith ['/', '/'] link || startsWith ['#'] link ||
    match splitOnce ':' link with
    | some (scheme, _) => Url.isScheme scheme
    | none => false

/-- Whether a tail continues a base: nothing, or what starts a new part of the address. -/
def continuesBase : List Char → Bool
  | [] => true
  | c :: _ => c == '/' || c == '?' || c == '#'

/-- Puts a base in front of a link, both as characters. External links stay as they are, and
links already under the base are not put under it again. -/
def BasePath.joinChars (base link : List Char) : List Char :=
  let link := trimBoth link
  if isExternal link then link
  else
    let rest := link.dropWhile (· == '/')
    match base with
    | [] => '/' :: rest
    | slash :: name =>
      match dropStart? name rest with
      | some tail =>
        -- A longer first segment only looks like the base.
        if continuesBase tail then '/' :: rest else slash :: name ++ '/' :: rest
      | none => slash :: name ++ '/' :: rest

/-- Puts the base in front of a link. -/
def BasePath.join (b : BasePath) (link : String) : String :=
  String.ofList (BasePath.joinChars b.text.toList link.toList)

end DocSite
