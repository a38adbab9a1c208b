/-!
# Blank characters

  A blank is a character with the Unicode property `White_Space`. The same set
  decides what trimming removes and what separates words in the small languages
  of the theme (colors, radii, animations, stylesheets).

  Everything is defined on `List Char`, with a `String` form beside it.
-/

namespace DocSite.Text

/-! ## The property -/

/-- The 25 characters of the Unicode property `White_Space`. -/
def isBlank (c : Char) : Bool :=
  c == ' ' || ('\t' ≤ c && c ≤ '\r') || c == '\u0085' || c == '\u00a0' || c == '\u1680' ||
    ('\u2000' ≤ c && c ≤ '\u200a') || c == '\u2028' || c == '\u2029' || c == '\u202f' ||
    c == '\u205f' || c == '\u3000'

/-! ## Trimming -/

/-- Drops the blanks at the front. -/
def trimLeft (cs : List Char) : List Char := cs.dropWhile isBlank

/-- Drops the blanks at the back. -/
def trimRight (cs : List Char) : List Char := (cs.reverse.dropWhile isBlank).reverse

/-- Drops the blanks at both ends. -/
def trimBoth (cs : List Char) : List Char := trimRight (trimLeft cs)

/-- A text without the blanks at its ends. -/
def trim (s : String) : String := String.ofList (trimBoth s.toList)

@[simp] theorem trimLeft_nil : trimLeft [] = [] := rfl

@[simp] theorem trimRight_nil : trimRight [] = [] := rfl

@[simp] theorem toList_trim (s : String) : (trim s).toList = trimBoth s.toList := by
  simp [trim]

end DocSite.Text
