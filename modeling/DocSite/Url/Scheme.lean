import DocSite.Text.Split

/-!
# URL schemes

  What a scheme looks like, and which ports and reading rules the schemes of the
  web imply.
-/

namespace DocSite.Url

/-- Whether a text is a scheme: a letter, then letters, digits and `+ - .`. -/
def isScheme : List Char → Bool
  | [] => false
  | c :: cs => c.isAlpha && cs.all fun c => c.isAlphanum || c == '+' || c == '-' || c == '.'

/-- The kinds of schemes, which differ in how their hosts and paths are read. -/
inductive SchemeKind where
  | web
  | file
  | other
  deriving DecidableEq, Repr

/-- The kind of a scheme. -/
def schemeKind (scheme : String) : SchemeKind :=
  if ["http", "https", "ws", "wss", "ftp"].contains scheme then .web
  else if scheme == "file" then .file
  else .other

/-- The port that a scheme implies. -/
def defaultPort (scheme : String) : Option Nat :=
  if scheme == "http" || scheme == "ws" then some 80
  else if scheme == "https" || scheme == "wss" then some 443
  else if scheme == "ftp" then some 21
  else none

end DocSite.Url
