/-!
# Terminal styles

  The control sequences that color a text on a terminal. A color ends by
  restoring the default foreground, a weight by resetting all styles.
-/

namespace DocSite.Ansi

/-- The foreground colors in use. -/
inductive Color where
  | red
  | green
  | yellow
  | cyan
  | brightRed
  | brightGreen
  | brightYellow
  | brightBlue
  | brightCyan
  deriving DecidableEq, Repr

/-- The number of a color. -/
def Color.code : Color → Nat
  | .red => 31
  | .green => 32
  | .yellow => 33
  | .cyan => 36
  | .brightRed => 91
  | .brightGreen => 92
  | .brightYellow => 93
  | .brightBlue => 94
  | .brightCyan => 96

/-- The sequence that selects a style. -/
def style (code : Nat) : String := "\x1b[" ++ toString code ++ "m"

/-- A colored text. -/
def paint (color : Color) (text : String) : String := style color.code ++ text ++ style 39

/-- A text in bold. -/
def bold (text : String) : String := style 1 ++ text ++ style 0

/-- A dimmed text. -/
def dim (text : String) : String := style 2 ++ text ++ style 0

/-- Clears the rest of the line. -/
def clearLine : String := "\x1b[K"

end DocSite.Ansi
