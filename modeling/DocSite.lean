import DocSite.Ansi
import DocSite.BasePath
import DocSite.Command.Basic
import DocSite.Command.Line
import DocSite.Command.Report
import DocSite.Command.Run
import DocSite.Command.Session
import DocSite.Diagnostics
import DocSite.Disk
import DocSite.Failure
import DocSite.FieldPath
import DocSite.FileTree
import DocSite.Glob.Expression
import DocSite.Glob.Match
import DocSite.Glob.Pattern
import DocSite.Glob.PatternSet
import DocSite.Instant
import DocSite.Ip
import DocSite.Json.Basic
import DocSite.Json.CamelCase
import DocSite.Json.Reader
import DocSite.Log
import DocSite.Main
import DocSite.Number.Binary64
import DocSite.Number.Decimal
import DocSite.Number.Measure
import DocSite.Number.Shortest
import DocSite.Path
import DocSite.Plural
import DocSite.Project.Basic
import DocSite.Project.ThemeFile
import DocSite.Proofs.BasePath
import DocSite.Proofs.Diagnostics
import DocSite.Proofs.Disk
import DocSite.Proofs.FileTree
import DocSite.Proofs.Ip
import DocSite.Proofs.Links
import DocSite.Proofs.Loading
import DocSite.Proofs.Number.Rounding
import DocSite.Proofs.Number.Shortest
import DocSite.Proofs.Path
import DocSite.Proofs.Site.CanonicalUrl
import DocSite.Proofs.Site.RoundTrip
import DocSite.Proofs.Site.Sections
import DocSite.Proofs.Starter
import DocSite.Proofs.Table
import DocSite.Proofs.Text
import DocSite.Proofs.Theme.Chain
import DocSite.Proofs.Theme.ColorValidity
import DocSite.Proofs.Theme.ColorViews
import DocSite.Proofs.Theme.InputSet
import DocSite.Proofs.Theme.Integrity
import DocSite.Proofs.Theme.Layers
import DocSite.Proofs.Theme.References
import DocSite.Proofs.Toml.Arrange
import DocSite.Proofs.Toml.Decode
import DocSite.Proofs.Url.Graphic
import DocSite.Site.BuildOutput
import DocSite.Site.Config
import DocSite.Site.Define
import DocSite.Site.Integration
import DocSite.Site.Markdown
import DocSite.Site.RenderMode
import DocSite.Site.Server
import DocSite.SiteOrigin
import DocSite.Starter.Files
import DocSite.Starter.Sections
import DocSite.Starter.Template
import DocSite.Table
import DocSite.Text.Blank
import DocSite.Text.Printable
import DocSite.Text.Quoted
import DocSite.Text.Split
import DocSite.Text.Upper
import DocSite.Text.Utf8
import DocSite.Theme.Animation
import DocSite.Theme.Color
import DocSite.Theme.Config
import DocSite.Theme.Container
import DocSite.Theme.Content
import DocSite.Theme.Css
import DocSite.Theme.DarkMode
import DocSite.Theme.Error
import DocSite.Theme.Export
import DocSite.Theme.Font
import DocSite.Theme.Length
import DocSite.Theme.Plugin
import DocSite.Theme.Radius
import DocSite.Theme.Tokens
import DocSite.Theme.Typography
import DocSite.Theme.Utility
import DocSite.Theme.Variables
import DocSite.Toml.Decode
import DocSite.Toml.Printer
import DocSite.Toml.Reader
import DocSite.Toml.Scanner
import DocSite.Toml.Value
import DocSite.Url.Basic
import DocSite.Url.CodePointTable
import DocSite.Url.Direction
import DocSite.Url.Domain
import DocSite.Url.DomainData
import DocSite.Url.Joining
import DocSite.Url.Normal
import DocSite.Url.Percent
import DocSite.Url.Punycode
import DocSite.Url.Scheme
import DocSite.Proofs.Site.NormalForm
import DocSite.Proofs.Site.PublicUrls
import DocSite.Proofs.Site.Keys
import DocSite.Proofs.Theme.Stylesheet
import DocSite.Proofs.Theme.Associativity
import DocSite.Proofs.Theme.RadiusOrder
import DocSite.Proofs.Theme.Usable
import DocSite.Proofs.Theme.ComparableTiers
import DocSite.Proofs.Site.Integrations
import DocSite.Proofs.Theme.TakenNames
import DocSite.Proofs.Theme.Shorthand
import DocSite.Proofs.Theme.ShorthandNumbers
import DocSite.Proofs.Site.AssetsUrl
import DocSite.Proofs.Theme.StyleTree
import DocSite.Proofs.Theme.SelectorLists
import DocSite.Proofs.PathGrammar
import DocSite.Proofs.Site.OutputDir
import DocSite.Proofs.Theme.ContentWalk
import DocSite.Proofs.Theme.Variants
import DocSite.Proofs.Theme.Opacity
import DocSite.Proofs.Theme.RootBlock
import DocSite.Proofs.Theme.FontStack
import DocSite.Proofs.KeyPath
import DocSite.Proofs.Theme.ShorthandText
import DocSite.Proofs.Json.CamelCase
import DocSite.Proofs.Theme.Breakpoints
