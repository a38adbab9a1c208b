import DocSite.Ip
import DocSite.Url.Domain
import DocSite.Url.Percent
import DocSite.Url.Scheme

/-!
# URLs

  Reading a URL without a base, by the living standard for URLs: the scheme and
  the host in lower case, default ports left out, numeric hosts as addresses,
  `\` as `/` for the schemes of the web, dot segments resolved and the path
  percent-encoded.
-/

namespace DocSite

open DocSite.Text

namespace Url

/-! ## Hosts -/

/-- The host of a URL. -/
inductive Host where
  | domain (name : String)
  | v4 (value : Nat)
  | v6 (groups : List Nat)
  deriving DecidableEq, Repr

/-- The text of a host. -/
def Host.text : Host → String
  | .domain name => name
  | .v4 n => Ip.v4Text n
  | .v6 groups => "[" ++ Ip.v6Text groups ++ "]"

/-- A part of a numeric host: hexadecimal after `0x`, octal after `0`, else decimal. -/
def hostNumber? (part : List Char) : Option Nat :=
  let read (base : Nat) (isDigit : Char → Bool) (digits : List Char) : Option Nat :=
    if digits.all isDigit then some (readDigits base digits) else none
  match part with
  | [] => none
  | '0' :: 'x' :: digits => read 16 isHexDigit digits
  | '0' :: 'X' :: digits => read 16 isHexDigit digits
  | '0' :: d :: digits => read 8 (fun c => '0' ≤ c && c ≤ '7') (d :: digits)
  | digits => read 10 Char.isDigit digits

/-- The parts of a host between dots, without the empty one after a dot at the end. -/
def hostParts (name : List Char) : List (List Char) :=
  let parts := splitOn '.' name
  if parts.getLast? = some [] then parts.dropLast else parts

/-- Whether a host ends in a number, so that it must be an address. -/
def endsInNumber (name : List Char) : Bool :=
  match (hostParts name).getLast? with
  | none => false
  | some last => (!last.isEmpty && last.all Char.isDigit) || (hostNumber? last).isSome

/-- A numeric host: all parts but the last are bytes, the last fills what remains. -/
def numericHost? (name : List Char) : Option Host := do
  let parts := hostParts name
  if 4 < parts.length then none
  else
    let numbers ← parts.mapM hostNumber?
    let last ← numbers.getLast?
    let bytes := numbers.dropLast
    if bytes.any (255 < ·) || Nat.pow 256 (4 - bytes.length) ≤ last then none
    else some (.v4 (bytes.foldr (fun b (n, w) => (n + b * w, w * 256))
      (last, Nat.pow 256 (4 - bytes.length))).1)

/-- A host between brackets. -/
def bracketHost? (text : List Char) : Option Host := do
  let inner ← dropEnd? [']'] (text.drop 1)
  return .v6 (← Ip.v6? inner)

/-- The host of a scheme of the web. -/
def webHost? (text : List Char) : Option Host :=
  if startsWith ['['] text then bracketHost? text
  else do
    let name ← ofUtf8? (percentDecode text)
    let ascii ← Domain.toAscii? name
    if ascii.isEmpty then none
    -- A name that ends in a number is an address or nothing.
    else if endsInNumber ascii then numericHost? ascii
    else some (.domain (String.ofList ascii))

/-- The host of any other scheme, which may be empty. -/
def plainHost? (text : List Char) : Option Host :=
  if startsWith ['['] text then bracketHost? text
  else if text.any fun c => c == '\u0000' || (" #/:<>?@[\\]^|".toList).contains c then none
  else some (.domain (String.ofList (percentEncode isAlwaysEncoded text)))

end Url

/-! ## URLs -/

/-- A URL; the path is that of a URL with a host, and empty for others. -/
structure Url where
  scheme : String
  username : String := ""
  password : String := ""
  host : Option Url.Host := none
  port : Option Nat := none
  path : String := ""
  hasQuery : Bool := false
  hasFragment : Bool := false
  deriving DecidableEq, Repr

namespace Url

/-- The scheme in lower case, and what follows its colon. -/
def takeScheme? (cs : List Char) : Option (String × List Char) := do
  let (scheme, rest) ← splitOnce ':' cs
  if isScheme scheme then some (String.ofList (scheme.map Char.toLower), rest) else none

/-- Whether a character separates the segments of a path. -/
def isSlash (kind : SchemeKind) (c : Char) : Bool := c == '/' || (kind != .other && c == '\\')

/-- Whether a character ends the authority of a URL. -/
def endsAuthority (kind : SchemeKind) (c : Char) : Bool := isSlash kind c || c == '?' || c == '#'

/-! ### Paths -/

/-- A segment that stands for the directory itself. -/
def isSingleDot (segment : List Char) : Bool :=
  [".", "%2e"].contains (String.ofList (segment.map Char.toLower))

/-- A segment that stands for the directory above. -/
def isDoubleDot (segment : List Char) : Bool :=
  ["..", ".%2e", "%2e.", "%2e%2e"].contains (String.ofList (segment.map Char.toLower))

/-- Splits a path at its slashes. -/
def splitPath (kind : SchemeKind) (path : List Char) : List (List Char) :=
  splitOn '/' (path.map fun c => if isSlash kind c then '/' else c)

/-- Resolves dot segments; `done` holds the segments so far, reversed. -/
def resolveDots (done : List (List Char)) : List (List Char) → List (List Char)
  | [] => done.reverse
  | segment :: rest =>
    let done :=
      if isDoubleDot segment then done.drop 1
      else if isSingleDot segment then done
      else segment :: done
    let dotted := isDoubleDot segment || isSingleDot segment
    -- A path that ends in dots names a directory, so a slash ends it.
    resolveDots (if rest.isEmpty && dotted then [] :: done else done) rest

/-- The path of a URL with a host. -/
def pathText (kind : SchemeKind) (path : List Char) : String :=
  let path :=
    match path with
    | [] => []
    | c :: rest => if isSlash kind c then rest else c :: rest
  let segments := (splitPath kind path).map (percentEncode isPathEncoded)
  String.ofList ('/' :: joinWith ['/'] (resolveDots [] segments))

/-! ### Authorities -/

/-- The user part and the host part of an authority: the last `@` separates them. -/
def splitUser (authority : List Char) : Option (List Char) × List Char :=
  match splitOnce '@' authority.reverse with
  | none => (none, authority)
  | some (host, user) => (some user.reverse, host.reverse)

/-- The host and the port of the host part: the first colon outside brackets separates them. -/
def splitPort : (inBrackets : Bool) → List Char → List Char × Option (List Char)
  | _, [] => ([], none)
  | inBrackets, c :: rest =>
    if c == ':' && !inBrackets then ([], some rest)
    else
      let inBrackets := if c == '[' then true else if c == ']' then false else inBrackets
      let (host, port) := splitPort inBrackets rest
      (c :: host, port)

/-- A port of at most 65535, which a backslash ends as well; none when it is missing or
implied. -/
def port? (implied : Option Nat) : Option (List Char) → Option (Option Nat)
  | none => some none
  | some text =>
    let digits := text.takeWhile (· != '\\')
    if digits.isEmpty then some none
    else if digits.all Char.isDigit && readDigits 10 digits ≤ 65535 then
      let n := readDigits 10 digits
      some (if some n = implied then none else some n)
    else none

/-- The name and the password of a user: the first colon separates them. -/
def splitPassword (user : List Char) : List Char × List Char :=
  (splitOnce ':' user).getD (user, [])

/-- Reads what follows the slashes of a URL with a host. -/
def authority? (scheme : String) (kind : SchemeKind) (cs : List Char) : Option Url := do
  let (authority, rest) := cs.span fun c => !endsAuthority kind c
  let (user, hostPart) := splitUser authority
  let (name, password) := splitPassword (user.getD [])
  let (hostText, portText) := splitPort false hostPart
  -- Only outside the web is there an authority without a host, and it has no user or port.
  if hostText.isEmpty && (kind == .web || portText.isSome) then none
  else if hostText.isEmpty && !(name.isEmpty && password.isEmpty) then none
  -- A lone `@` before a path, a query or a fragment is no authority.
  else if hostText.isEmpty && user == some [] && !rest.isEmpty then none
  else
    let host ← if kind == .web then webHost? hostText else plainHost? hostText
    let port ← port? (defaultPort scheme) portText
    let (path, rest) := rest.span fun c => c != '?' && c != '#'
    some
      { scheme
        username := String.ofList (percentEncode isUserEncoded name)
        password := String.ofList (percentEncode isUserEncoded password)
        host := some host
        port
        path := if kind == .other && path.isEmpty then "" else pathText kind path
        hasQuery := rest.head? == some '?'
        hasFragment := rest.contains '#' }

/-- A letter and a colon or bar, which on a file system is a drive. -/
def isDrive : List Char → Bool
  | [a, b] => a.isAlpha && (b == ':' || b == '|')
  | _ => false

/-- Reads what follows the scheme of a file. -/
def file? (scheme : String) (cs : List Char) : Option Url :=
  match cs with
  | a :: b :: rest =>
    if isSlash .file a && isSlash .file b then
      let name := rest.takeWhile fun c => !endsAuthority .file c
      if name.isEmpty || isDrive name then some { scheme }
      else (webHost? name).map fun host => { scheme, host := some host }
    else some { scheme }
  | _ => some { scheme }

/-- A character that is dropped at the ends of a URL. -/
def isEdge (c : Char) : Bool := c.toNat ≤ 0x20

/-- A character that is dropped anywhere in a URL. -/
def isDropped (c : Char) : Bool := c == '\t' || c == '\n' || c == '\r'

/-- A text without control characters and spaces at its ends, and without tabs and line
breaks. -/
def clean (cs : List Char) : List Char :=
  (((cs.dropWhile isEdge).reverse.dropWhile isEdge).reverse).filter (!isDropped ·)

/-- Reads a URL. -/
def parse? (s : String) : Option Url := do
  let (scheme, rest) ← takeScheme? (clean s.toList)
  match schemeKind scheme with
  | .web => authority? scheme .web (rest.dropWhile (isSlash .web))
  | .file => file? scheme rest
  | .other =>
    match rest with
    | '/' :: '/' :: rest => authority? scheme .other rest
    | rest => some { scheme, hasQuery := rest.contains '?', hasFragment := rest.contains '#' }

/-! ### Text -/

/-- Scheme, host and port. -/
def originText (u : Url) : String :=
  u.scheme ++ "://" ++ (u.host.map Host.text).getD "" ++
    match u.port with
    | none => ""
    | some n => ":" ++ toString n

/-- User name and password before the host. -/
def userText (u : Url) : String :=
  if u.username.isEmpty && u.password.isEmpty then ""
  else u.username ++ (if u.password.isEmpty then "" else ":" ++ u.password) ++ "@"

/-- The text of a URL with a host and without query and fragment. -/
def text (u : Url) : String :=
  u.scheme ++ "://" ++ u.userText ++ (u.host.map Host.text).getD "" ++
    (match u.port with
    | none => ""
    | some n => ":" ++ toString n) ++ u.path

end Url

end DocSite
