import DocSite.Text.Split
import DocSite.Text.Utf8

/-!
# Percent encoding

  Bytes of a URL written as `%` and two hexadecimal digits. Encoding works on the
  UTF-8 bytes of a character and leaves the characters of a set alone; decoding
  leaves a `%` without two digits as it is.
-/

namespace DocSite.Url

open DocSite.Text

/-! ## Encoding and decoding -/

/-- A byte as `%` and two upper-case digits. -/
def percentByte (b : Nat) : List Char := ['%', upperHexDigit (b / 16), upperHexDigit (b % 16)]

/-- Control characters and everything above ASCII, which no part of a URL holds as it is. -/
def isAlwaysEncoded (c : Char) : Bool := c.toNat < 0x20 || 0x7f ≤ c.toNat

/-- The characters that a path does not hold as they are. -/
def isPathEncoded (c : Char) : Bool :=
  isAlwaysEncoded c || [' ', '"', '<', '>', '`', '#', '?', '\x7b', '\x7d'].contains c

/-- The characters that user names and passwords do not hold as they are. -/
def isUserEncoded (c : Char) : Bool :=
  isPathEncoded c || ['/', ':', ';', '=', '@', '[', '\\', ']', '^', '|'].contains c

/-- Encodes the characters of a set. -/
def percentEncode (encoded : Char → Bool) (cs : List Char) : List Char :=
  cs.flatMap fun c => if encoded c then (utf8Bytes c).flatMap percentByte else [c]

/-- The bytes of a text with its escapes resolved. -/
def percentDecode : List Char → List Nat
  | '%' :: a :: b :: rest =>
    if isHexDigit a && isHexDigit b then
      (hexValue a * 16 + hexValue b) :: percentDecode rest
    else '%'.toNat :: percentDecode (a :: b :: rest)
  | c :: rest => utf8Bytes c ++ percentDecode rest
  | [] => []

end DocSite.Url
