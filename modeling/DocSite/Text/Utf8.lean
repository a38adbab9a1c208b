/-!
# Bytes of characters

  The UTF-8 encoding: one to four bytes a character, and the characters of a
  sequence of bytes if it is the encoding of any.
-/

namespace DocSite.Text

/-- The UTF-8 bytes of a character. -/
def utf8Bytes (c : Char) : List Nat :=
  let n := c.toNat
  if n < 0x80 then [n]
  else if n < 0x800 then [0xc0 + n / 64, 0x80 + n % 64]
  else if n < 0x10000 then [0xe0 + n / 4096, 0x80 + n / 64 % 64, 0x80 + n % 64]
  else [0xf0 + n / 262144, 0x80 + n / 4096 % 64, 0x80 + n / 64 % 64, 0x80 + n % 64]

/-- A character if the number is one and takes at least `least`, the least number that needs
so many bytes. -/
def scalarFrom? (least n : Nat) : Option Char :=
  if least ≤ n && n.isValidChar then some (Char.ofNat n) else none

/-- Whether a byte continues a character. -/
def isContinuation (b : Nat) : Bool := 0x80 ≤ b && b < 0xc0

/-- The characters of UTF-8 bytes. -/
def ofUtf8? : List Nat → Option (List Char)
  | [] => some []
  | a :: rest =>
    if a < 0x80 then (ofUtf8? rest).map (Char.ofNat a :: ·)
    else if a < 0xc0 then none
    else if a < 0xe0 then
      match rest with
      | b :: rest =>
        if isContinuation b then do
          let c ← scalarFrom? 0x80 ((a - 0xc0) * 64 + (b - 0x80))
          return c :: (← ofUtf8? rest)
        else none
      | _ => none
    else if a < 0xf0 then
      match rest with
      | b :: c :: rest =>
        if isContinuation b && isContinuation c then do
          let c ← scalarFrom? 0x800 (((a - 0xe0) * 64 + (b - 0x80)) * 64 + (c - 0x80))
          return c :: (← ofUtf8? rest)
        else none
      | _ => none
    else if a < 0xf8 then
      match rest with
      | b :: c :: d :: rest =>
        if isContinuation b && isContinuation c && isContinuation d then do
          let c ← scalarFrom? 0x10000
            ((((a - 0xf0) * 64 + (b - 0x80)) * 64 + (c - 0x80)) * 64 + (d - 0x80))
          return c :: (← ofUtf8? rest)
        else none
      | _ => none
    else none

/-- The UTF-8 bytes of a text. -/
def utf8 (cs : List Char) : List Nat := cs.flatMap utf8Bytes

end DocSite.Text
