import DocSite.Site.Config
import DocSite.Starter.Template
import DocSite.Theme.Config

/-!
# The sections of the two records

  What the templates of a site and of a theme say about each key. What a key starts
  as is taken from the record without any settings.
-/

namespace DocSite.Starter

/-! ## The site -/

/-- The development server. -/
def server : Section :=
  let start : Server := {}
  .mk "server" "Development server bind settings."
    [{ name := "port", doc := "Port the dev server listens on."
       value := .initial (.integer start.port) },
      { name := "host"
        doc := "Bind address: IP, \"localhost\", a hostname, or true for all interfaces."
        value := .initial (.string start.host.text) }]
    []

/-- The output directories. -/
def buildOutput : Section :=
  let start : BuildOutput := {}
  .mk "build" "Output directory naming."
    [{ name := "out_dir", doc := "Output directory, relative to the project root."
       value := .initial (.string start.outDir.text) },
      { name := "assets", doc := "Asset subdirectory name inside the output directory."
        value := .initial (.string start.assets) }]
    []

/-- The highlighter. -/
def highlighting : Section :=
  let start : Highlighting := {}
  .mk "markdown.shiki" "Code-block highlighting."
    [{ name := "theme", doc := "Highlighter theme name.", value := .initial (.string start.theme) },
      { name := "langs"
        doc := "Languages loaded by the highlighter (empty = highlighter defaults)."
        value := .initial (.strings start.langs) },
      { name := "wrap", doc := "Soft-wrap long lines instead of scrolling."
        value := .initial (.boolean start.wrap) }]
    []

/-- Documents. -/
def markdown : Section := .mk "markdown" "" [] [highlighting]

/-- The bundler. -/
def bundler : Section :=
  .mk "vite" ""
    [{ name := "define", doc := "Constant name -> JS expression, or a builtin value."
       value := .example "\x7b __DATE__ = \x7b builtin = \"build-date\" \x7d \x7d" }]
    []

/-- The whole site. -/
def site : Section :=
  let start : SiteConfig := {}
  .mk "" "Root configuration structure representing metasite.toml"
    [{ name := "site", doc := "Deployed site URL, without the base path."
       value := .example "\"https://example.github.io\"" },
      { name := "base", doc := "Public base path every page is served under."
        value := .initial (.string start.base.display) },
      { name := "output", doc := "Render mode: \"static\", \"server\" or \"hybrid\"."
        value := .initial (.string start.output.name) }]
    [server, buildOutput, markdown, bundler]

/-! ## The theme -/

/-- The page container. -/
def container : Section :=
  let start : Container := {}
  .mk "theme.container" "Page container settings"
    [{ name := "center", doc := "Center the container horizontally."
       value := .initial (.boolean start.center) },
      { name := "padding", doc := "Horizontal padding.", value := .example "\"2rem\"" }]
    []

/-- The tokens. -/
def tokens : Section :=
  .mk "theme.extend" "Tokens added on top of the processor defaults" [] []

/-- The section of the container and the tokens. -/
def themeSection : Section :=
  .mk "theme" "Theme values" [{ name := "container", value := .unset }] [tokens]

/-- The whole theme. -/
def theme : Section :=
  let start : Theme := {}
  .mk "" "Root structure of theme.toml"
    [{ name := "extends", doc := "Base theme file merged underneath this one.", value := .unset },
      { name := "stylesheet", doc := "Root stylesheet declaring the `--vars` tokens read."
        value := .unset },
      { name := "content", doc := "Files scanned for utility classes."
        value := .initial (.strings (start.content.map (·.text))) },
      { name := "dark_mode", doc := "Dark-mode strategy.", value := .unset },
      { name := "plugins", doc := "Enabled processor plugins."
        value := .initial (.strings (start.plugins.map (·.name))) }]
    [themeSection]

end DocSite.Starter
