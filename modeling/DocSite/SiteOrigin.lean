import DocSite.BasePath
import DocSite.Url.Basic

/-!
# Site origins

  The address under which a site is deployed: an `http` or `https` URL with a
  host, without query and fragment. A path that it carries is kept until the
  configuration turns it into a base path.
-/

namespace DocSite

/-- The deployed address of a site. -/
structure SiteOrigin where
  url : Url
  deriving DecidableEq, Repr

namespace SiteOrigin

/-- Reads an address, blanks around it aside. -/
def parse (s : String) : Except AddressError SiteOrigin :=
  match Url.parse? (Text.trim s) with
  | none => .error (.malformed s)
  | some u =>
    if u.scheme != "http" && u.scheme != "https" then .error (.scheme u.scheme)
    else if u.host.isNone then .error (.malformed s)
    else if u.hasQuery || u.hasFragment then .error .queryOrFragment
    else .ok ⟨u⟩

/-- Scheme, host and port, without a slash at the end. -/
def origin (site : SiteOrigin) : String := site.url.originText

/-- The path without the slashes around it. -/
def path (site : SiteOrigin) : String :=
  let isSlash (c : Char) : Bool := c == '/'
  String.ofList (((site.url.path.toList.dropWhile isSlash).reverse.dropWhile isSlash).reverse)

/-- The origin alone when there is no path, else the whole address. -/
def display (site : SiteOrigin) : String :=
  if site.path.isEmpty then site.origin else site.url.text

/-- The address of a site's first page: origin, base and a slash. -/
def canonicalUrl (site : SiteOrigin) (base : BasePath) : String :=
  site.origin ++ base.text ++ "/"

end SiteOrigin

end DocSite
