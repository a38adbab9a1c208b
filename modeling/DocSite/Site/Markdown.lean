import DocSite.Diagnostics
import DocSite.Json.Basic
import DocSite.Text.Blank
import DocSite.Toml.Decode

/-!
# Code blocks in documents

  How the highlighter colors code: its theme, the languages that it loads, and
  whether long lines wrap.
-/

namespace DocSite

open DocSite.Text

/-- Options of the highlighter. -/
structure Highlighting where
  theme : String := "github-dark"
  langs : List String := []
  wrap : Bool := false
  deriving DecidableEq, Repr

namespace Highlighting

/-! ## What the highlighter knows -/

/-- The themes that come with the highlighter. -/
def bundledThemes : List String :=
  ["andromeeda", "aurora-x", "ayu-dark", "catppuccin-frappe", "catppuccin-latte",
    "catppuccin-macchiato", "catppuccin-mocha", "dark-plus", "dracula", "dracula-soft",
    "everforest-dark", "everforest-light", "github-dark", "github-dark-default",
    "github-dark-dimmed", "github-dark-high-contrast", "github-light", "github-light-default",
    "github-light-high-contrast", "houston", "kanagawa-dragon", "kanagawa-lotus",
    "kanagawa-wave", "laserwave", "light-plus", "material-theme", "material-theme-darker",
    "material-theme-lighter", "material-theme-ocean", "material-theme-palenight", "min-dark",
    "min-light", "monokai", "night-owl", "nord", "one-dark-pro", "one-light", "plastic",
    "poimandres", "red", "rose-pine", "rose-pine-dawn", "rose-pine-moon", "slack-dark",
    "slack-ochin", "snazzy-light", "solarized-dark", "solarized-light", "synthwave-84",
    "tokyo-night", "vesper", "vitesse-black", "vitesse-dark", "vitesse-light"]

/-- Names of common languages. -/
def knownLangs : List String :=
  ["astro", "bash", "c", "console", "cpp", "csharp", "cs", "css", "diff", "docker",
    "dockerfile", "go", "graphql", "html", "ini", "java", "javascript", "js", "json", "jsonc",
    "jsx", "kotlin", "lua", "makefile", "markdown", "md", "mdx", "php", "plaintext",
    "powershell", "py", "python", "rb", "rs", "ruby", "rust", "scss", "sh", "shell",
    "shellscript", "sql", "svelte", "swift", "text", "toml", "ts", "tsx", "txt", "typescript",
    "vue", "xml", "yaml", "yml", "zsh"]

/-- Lower-case letters and digits. -/
def isLangStart (c : Char) : Bool := c.isLower || c.isDigit

/-- Whether a text names a language. -/
def isLangId (s : String) : Bool :=
  match s.toList with
  | [] => false
  | c :: cs => isLangStart c && cs.all fun c => isLangStart c || ['-', '+', '#', '.'].contains c

/-! ## Checks -/

/-- Checks the theme. -/
def checkTheme (theme : String) : Diagnostics :=
  let theme := trim theme
  if theme.isEmpty then .error ⟨"markdown.shiki.theme"⟩ "theme must not be empty"
  else
    .when (!bundledThemes.contains theme)
      (.warning ⟨"markdown.shiki.theme"⟩
        (ticked theme ++ " is not a bundled theme; it must be registered separately"))

/-- Checks one language; `before` are those that are listed earlier. -/
def checkLang (field : FieldPath) (before : List String) (lang : String) : Diagnostics :=
  if !isLangId lang then
    .errorWithHint field (ticked lang ++ " is not a valid language id")
      "language ids are lowercase, e.g. \"typescript\""
  else if before.contains lang then
    .error field ("language " ++ ticked lang ++ " is listed twice")
  else
    .when (!knownLangs.contains lang)
      (.warning field (ticked lang ++ " is not a common grammar id"))

/-- Checks the options. -/
def diagnostics (h : Highlighting) : Diagnostics :=
  checkTheme h.theme ++
    .forItems h.langs fun i lang =>
      checkLang (FieldPath.index ⟨"markdown.shiki.langs"⟩ i) (h.langs.take i) lang

/-! ## Reading and writing -/

/-- The record of the highlighter. -/
def record : Toml.RecordType Highlighting where
  name := "ShikiConfig"
  fields :=
    [Toml.field "theme" Toml.decodeString fun x r => { r with theme := x },
      Toml.field "langs" (Toml.decodeList Toml.decodeString) fun x r => { r with langs := x },
      Toml.field "wrap" Toml.decodeBool fun x r => { r with wrap := x }]

/-- The record of the section that holds the highlighter. -/
def sectionRecord : Toml.RecordType Highlighting where
  name := "MarkdownConfig"
  fields := [Toml.field "shiki" (Toml.decodeRecord record {}) fun x _ => x]

/-- Reads the section. -/
def decode : Toml.Decoder Highlighting := Toml.decodeRecord sectionRecord {}

/-- The section as a table. -/
def toToml (h : Highlighting) : Toml.Value :=
  .table
    [("shiki", .table
      [("theme", .string h.theme), ("langs", .strings h.langs), ("wrap", .boolean h.wrap)])]

/-- The section for the site generator. -/
def toJson (h : Highlighting) : Json :=
  .object
    [("shikiConfig", .object
      [("theme", .string h.theme), ("langs", .strings h.langs), ("wrap", .bool h.wrap)])]

end Highlighting

end DocSite
