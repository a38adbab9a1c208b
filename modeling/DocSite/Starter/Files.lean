import DocSite.Starter.Sections

/-!
# Starter files

  The two files that a new project starts with: a commented configuration of the
  site, and the theme of a documentation site.
-/

namespace DocSite.Starter

/-- The name of a site's configuration file. -/
def configFile : String := "metasite.toml"

/-- The name of a theme file. -/
def themeFile : String := "theme.toml"

/-- The version that the configuration names. -/
def version : String := "0.1.0"

/-- The plugins that a new site starts with. -/
def integrations : String :=
  "
# Enabled integrations, in processing order.
# Available: tailwind, react, mdx, sitemap (needs `site`), node (needs output = \"server\" or \"hybrid\").
[[integrations]]
name = \"tailwind\"
apply_base_styles = true
config_file = \"theme.toml\"

[[integrations]]
name = \"react\"

[[integrations]]
name = \"mdx\"
"

/-- The configuration of a new site. -/
def configText : String :=
  "# metasite configuration file (v" ++ version ++ ")\n\n" ++ site.withHeader ++ integrations

/-- The theme of a new site. -/
def themeText : String :=
  "# Theme token table read by the tailwind integration.

# Files scanned for utility classes, relative to the project root.
content = [
    \"./src/**/*.\x7bastro,html,js,jsx,md,mdx,svelte,ts,tsx,vue\x7d\",
    \"./src/pages/**/*.\x7bastro,html,js,jsx,md,mdx,svelte,ts,tsx,vue\x7d\",
    \"./src/components/**/*.\x7bastro,html,js,jsx,md,mdx,svelte,ts,tsx,vue\x7d\",
    \"./src/layouts/**/*.\x7bastro,html,js,jsx,md,mdx,svelte,ts,tsx,vue\x7d\",
]

# Root stylesheet declaring the --vars used below. Set it to check references.
# stylesheet = \"src/styles/globals.css\"

plugins = [\"typography\"]

[theme.container]
center = true
padding = \"2rem\"

[theme.container.screens]
\"2xl\" = \"1400px\"

[theme.extend.colors]
border = \"hsl(var(--border))\"
input = \"hsl(var(--input))\"
ring = \"hsl(var(--ring))\"
background = \"hsl(var(--background))\"
foreground = \"hsl(var(--foreground))\"

[theme.extend.colors.primary]
DEFAULT = \"hsl(var(--primary))\"
foreground = \"hsl(var(--primary-foreground))\"

[theme.extend.colors.secondary]
DEFAULT = \"hsl(var(--secondary))\"
foreground = \"hsl(var(--secondary-foreground))\"

[theme.extend.colors.destructive]
DEFAULT = \"hsl(var(--destructive))\"
foreground = \"hsl(var(--destructive-foreground))\"

[theme.extend.colors.muted]
DEFAULT = \"hsl(var(--muted))\"
foreground = \"hsl(var(--muted-foreground))\"

[theme.extend.colors.accent]
DEFAULT = \"hsl(var(--accent))\"
foreground = \"hsl(var(--accent-foreground))\"

[theme.extend.colors.popover]
DEFAULT = \"hsl(var(--popover))\"
foreground = \"hsl(var(--popover-foreground))\"

[theme.extend.colors.card]
DEFAULT = \"hsl(var(--card))\"
foreground = \"hsl(var(--card-foreground))\"

[theme.extend.border_radius]
lg = \"var(--radius)\"
md = \"calc(var(--radius) - 2px)\"
sm = \"calc(var(--radius) - 4px)\"

[theme.extend.font_family]
sans = [\"Inter\", \"ui-sans-serif\", \"system-ui\"]
mono = [\"JetBrains Mono\", \"ui-monospace\", \"monospace\"]

[theme.extend.typography.DEFAULT.css]
maxWidth = \"none\"
color = \"hsl(var(--foreground))\"

[theme.extend.typography.DEFAULT.css.h1]
color = \"hsl(var(--foreground))\"
fontWeight = \"700\"
fontSize = \"2.25rem\"
lineHeight = \"2.5rem\"
marginBottom = \"1.5rem\"

[theme.extend.typography.DEFAULT.css.h2]
color = \"hsl(var(--foreground))\"
fontWeight = \"600\"
fontSize = \"1.875rem\"
lineHeight = \"2.25rem\"
marginTop = \"2rem\"
marginBottom = \"1rem\"

[theme.extend.typography.DEFAULT.css.h3]
color = \"hsl(var(--foreground))\"
fontWeight = \"600\"
fontSize = \"1.5rem\"
lineHeight = \"2rem\"
marginTop = \"1.5rem\"
marginBottom = \"0.75rem\"

[theme.extend.typography.DEFAULT.css.h4]
color = \"hsl(var(--foreground))\"
fontWeight = \"600\"
fontSize = \"1.25rem\"
lineHeight = \"1.75rem\"
marginTop = \"1.25rem\"
marginBottom = \"0.5rem\"

[theme.extend.typography.DEFAULT.css.p]
color = \"hsl(var(--muted-foreground))\"
marginBottom = \"1rem\"
lineHeight = \"1.7\"

[theme.extend.typography.DEFAULT.css.a]
color = \"hsl(var(--primary))\"
textDecoration = \"none\"
fontWeight = \"500\"
\"&:hover\" = \x7b textDecoration = \"underline\" \x7d

[theme.extend.typography.DEFAULT.css.code]
color = \"hsl(var(--foreground))\"
backgroundColor = \"hsl(var(--muted))\"
padding = \"0.25rem 0.375rem\"
borderRadius = \"0.25rem\"
fontSize = \"0.875em\"
fontWeight = \"500\"

[theme.extend.typography.DEFAULT.css.pre]
backgroundColor = \"hsl(var(--muted))\"
color = \"hsl(var(--foreground))\"
padding = \"1rem\"
borderRadius = \"0.5rem\"
overflowX = \"auto\"
fontSize = \"0.875rem\"
lineHeight = \"1.5\"

[theme.extend.typography.DEFAULT.css.blockquote]
borderLeft = \"4px solid hsl(var(--border))\"
paddingLeft = \"1rem\"
fontStyle = \"italic\"
color = \"hsl(var(--muted-foreground))\"

[theme.extend.typography.DEFAULT.css.ul]
paddingLeft = \"1.5rem\"
marginBottom = \"1rem\"

[theme.extend.typography.DEFAULT.css.ol]
paddingLeft = \"1.5rem\"
marginBottom = \"1rem\"

[theme.extend.typography.DEFAULT.css.li]
marginBottom = \"0.5rem\"
color = \"hsl(var(--muted-foreground))\"

[theme.extend.typography.DEFAULT.css.table]
width = \"100%\"
borderCollapse = \"collapse\"
marginBottom = \"1.5rem\"

[theme.extend.typography.DEFAULT.css.th]
backgroundColor = \"hsl(var(--muted))\"
padding = \"0.75rem\"
textAlign = \"left\"
fontWeight = \"600\"
borderBottom = \"1px solid hsl(var(--border))\"

[theme.extend.typography.DEFAULT.css.td]
padding = \"0.75rem\"
borderBottom = \"1px solid hsl(var(--border))\"
"

end DocSite.Starter
