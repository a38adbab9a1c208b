import DocSite.BasePath
import DocSite.Diagnostics
import DocSite.Path
import DocSite.Toml.Decode

/-!
# Build output

  Where a built site is written: a directory below the root of the project, and
  inside it one for assets. The output directory never leads out of the root.
-/

namespace DocSite

open DocSite.Text

/-- The names of the output directories. -/
structure BuildOutput where
  outDir : Path := ⟨"dist"⟩
  assets : String := "_astro"
  deriving DecidableEq, Repr

namespace BuildOutput

/-- The record of the output directories. -/
def record : Toml.RecordType BuildOutput where
  name := "BuildOutputConfig"
  fields :=
    [Toml.field "out_dir" Toml.decodePath fun x r => { r with outDir := ⟨x⟩ },
      Toml.field "assets" Toml.decodeString fun x r => { r with assets := x }]

/-- Reads the output directories. -/
def decode : Toml.Decoder BuildOutput := Toml.decodeRecord record {}

/-! ## Checks -/

/-- Whether a walk along components, from a depth below some directory, leaves it. -/
def leaves : (depth : Nat) → List Component → Bool
  | _, [] => false
  | depth, .name _ :: rest => leaves (depth + 1) rest
  | 0, .up :: _ => true
  | depth + 1, .up :: rest => leaves depth rest
  | depth, .root :: rest => leaves depth rest
  | depth, .here :: rest => leaves depth rest

/-- Checks the output directory. -/
def checkOutDir (dir : Path) : Diagnostics :=
  if dir.text.isEmpty then .error ⟨"build.out_dir"⟩ "output directory must not be empty"
  else if dir.isAbsolute then
    .errorWithHint ⟨"build.out_dir"⟩ (ticked dir.text ++ " must be relative")
      "paths are resolved against the project root"
  else
    .when (leaves 0 dir.components)
      (.error ⟨"build.out_dir"⟩ (ticked dir.text ++ " points outside the project root"))

/-- Checks the directory of assets. -/
def checkAssets (assets : String) : Diagnostics :=
  if assets.isEmpty then .error ⟨"build.assets"⟩ "asset directory must not be empty"
  else if hasChar '/' assets || hasChar '\\' assets then
    .errorWithHint ⟨"build.assets"⟩ (ticked assets ++ " must be a single path segment")
      "nested asset directories are not supported"
  else
    .when ((BasePath.parse assets).toOption.isNone || assets == "." || assets == "..")
      (.error ⟨"build.assets"⟩ (ticked assets ++ " is not a valid URL path segment"))

/-- Checks the output directories. -/
def diagnostics (b : BuildOutput) : Diagnostics := checkOutDir b.outDir ++ checkAssets b.assets

/-! ## Derived values -/

/-- The public address of the assets. -/
def assetsUrl (b : BuildOutput) (base : BasePath) : String := base.join (b.assets ++ "/")

/-- The output directory of a project. -/
def outputDir (b : BuildOutput) (root : Path) : Path := root.join b.outDir

/-- The output directories as a table. -/
def toToml (b : BuildOutput) : Toml.Value :=
  .table [("out_dir", .string b.outDir.text), ("assets", .string b.assets)]

end BuildOutput

end DocSite
