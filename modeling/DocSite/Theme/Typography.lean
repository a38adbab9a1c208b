import DocSite.Diagnostics
import DocSite.Table
import DocSite.Theme.Css
import DocSite.Theme.Variables
import DocSite.Toml.Decode

/-!
# Prose styles

  Styles of running text by variant. The styles of a variant are a tree: a node is
  a property value or a rule for a nested selector. Every rule with properties of
  its own becomes one rule of the stylesheet, parents before their children.
-/

namespace DocSite

open DocSite.Text

/-! ## Trees of styles -/

/-- A property value, or a rule with named nodes inside. -/
inductive StyleNode where
  | value (value : Css.Value)
  | rule (nodes : List (String × StyleNode))
  deriving Inhabited

namespace StyleNode

/-- The properties that stand directly in a rule. -/
def declarations (nodes : List (String × StyleNode)) : List (String × String) :=
  nodes.filterMap fun
    | (key, .value v) => some (key, v.display)
    | (_, .rule _) => none

/-- A selector below another: `&` stands for the parent, all else for a descendant. -/
def nest (parent key : String) : String :=
  -- An ampersand may stand anywhere in a selector, and more than once.
  if hasChar '&' key then
    String.join (key.toList.map fun c => if c == '&' then parent else c.toString)
  else if parent.isEmpty then key
  else parent ++ " " ++ key

/-- The selector of a rule in the stylesheet. -/
def fullSelector (className selector : String) : String :=
  if selector.isEmpty then "." ++ className
  else "." ++ className ++ " :where(" ++ selector ++ ")"

/-- The rule of a node's own properties; nothing if it has none. -/
def ownRule (className selector : String) (nodes : List (String × StyleNode)) : String :=
  let own := declarations nodes
  if own.isEmpty then "" else Css.rule 0 (fullSelector className selector) own

mutual

/-- The rules of a node with a selector. -/
def toCss (className selector : String) : StyleNode → String
  | .value _ => ""
  | .rule nodes => ownRule className selector nodes ++ childrenCss className selector nodes

/-- The rules of the nodes inside a rule. -/
def childrenCss (className parent : String) : List (String × StyleNode) → String
  | [] => ""
  | (key, node) :: rest =>
    node.toCss className (nest parent key) ++ childrenCss className parent rest

end

mutual

/-- The root variables that a node reads, with the places of the readers. -/
def varRefs (field : FieldPath) : StyleNode → List (FieldPath × String)
  | .value v =>
    match v.asText? with
    | some text => (Variables.refs text).map fun name => (field, name)
    | none => []
  | .rule nodes => childrenRefs field nodes

/-- The root variables that the nodes inside a rule read. -/
def childrenRefs (field : FieldPath) : List (String × StyleNode) → List (FieldPath × String)
  | [] => []
  | (key, node) :: rest => node.varRefs (field.key key) ++ childrenRefs field rest

end

/-- Checks a property. -/
def checkValue (field : FieldPath) (key : String) (value : Css.Value) : Diagnostics :=
  if !Css.isPropertyName key then .error field (ticked key ++ " is not a CSS property name")
  else .when value.isEmpty (.error field "empty property value")

mutual

/-- Checks a node with its key. -/
def check (field : FieldPath) (key : String) : StyleNode → Diagnostics
  | .value v => checkValue field key v
  | .rule nodes =>
    .when (trim key).isEmpty (.error field "empty selector") ++ checkChildren field nodes

/-- Checks the nodes inside a rule. -/
def checkChildren (field : FieldPath) : List (String × StyleNode) → Diagnostics
  | [] => .none
  | (key, node) :: rest => node.check (field.key key) key ++ checkChildren field rest

end

mutual

/-- A node as JSON. -/
def toJson : StyleNode → Json
  | .value v => v.toJson
  | .rule nodes => .object (childrenJson nodes)

/-- The nodes inside a rule as JSON. -/
def childrenJson : List (String × StyleNode) → List (String × Json)
  | [] => []
  | (key, node) :: rest => (key, node.toJson) :: childrenJson rest

end

/-! ### Reading -/

mutual

/-- The node that a value stands for, if it stands for one. -/
def ofToml? : Toml.Value → Option StyleNode
  | .string s => some (.value (.text s))
  | .integer n => some (.value (.integer n))
  | .float x => some (.value (.number x))
  | .datetime text => some (.rule [(Toml.datetimeKey, .value (.text text))])
  | .table entries => (childrenOfToml? entries).map .rule
  | _ => none

/-- The nodes that the entries of a table stand for. -/
def childrenOfToml? : List (String × Toml.Value) → Option (List (String × StyleNode))
  | [] => some []
  | (key, v) :: rest =>
    match ofToml? v, childrenOfToml? rest with
    | some node, some nodes => some ((key, node) :: nodes)
    | _, _ => none

end

/-- Reads a node. -/
def decode : Toml.Decoder StyleNode := fun _ v =>
  match ofToml? v with
  | some node => pure node
  | none => throw (.noVariant "StyleNode")

end StyleNode

/-! ## Variants -/

/-- Styles by variant; each variant is the list of the nodes of its outermost rule. -/
structure Typography where
  variants : Table (List (String × StyleNode))

namespace Typography

/-- The class of a variant. -/
def proseClass (variant : String) : String :=
  if variant = "DEFAULT" then "prose" else "prose-" ++ variant

/-- Whether a text can be the end of a class. -/
def isVariantName (variant : String) : Bool :=
  !variant.isEmpty && variant.toList.head? != some '-' &&
    variant.toList.all fun c => c.isAlphanum || c == '-'

/-- The rules of all variants. -/
def toCss (t : Typography) : String :=
  String.join (t.variants.entries.map fun (variant, nodes) =>
    (StyleNode.rule nodes).toCss (proseClass variant) "")

/-- The root variables that styles read, with the places of the readers. -/
def varRefs (t : Typography) (field : FieldPath) : List (FieldPath × String) :=
  t.variants.entries.flatMap fun (variant, nodes) =>
    StyleNode.childrenRefs ((field.key variant).key "css") nodes

/-- Checks one variant. -/
def checkVariant (field : FieldPath) (variant : String) (nodes : List (String × StyleNode)) :
    Diagnostics :=
  .when (variant != "DEFAULT" && !isVariantName variant)
    (.error field (ticked variant ++ " is not a valid variant name")) ++
    StyleNode.checkChildren (field.key "css") nodes

/-- Checks every variant. -/
def diagnostics (t : Typography) (field : FieldPath) : Diagnostics :=
  .concat (t.variants.entries.map fun (variant, nodes) =>
    checkVariant (field.key variant) variant nodes)

/-- The styles as JSON. -/
def toJson (t : Typography) : Json :=
  .object (t.variants.entries.map fun (variant, nodes) =>
    (variant, .object [("css", .object (StyleNode.childrenJson nodes))]))

/-! ### Reading -/

/-- The record of a variant, whose one field must be there. -/
def variantRecord : Toml.RecordType (Option (List (String × StyleNode))) where
  name := "TypographyVariant"
  unknown := .refused
  hasDefaults := false
  fields :=
    [Toml.field "css" (Toml.decodeTable StyleNode.decode) fun x _ => some x.entries]

/-- Reads a variant. -/
def decodeVariant : Toml.Decoder (List (String × StyleNode)) := fun spot v => do
  match ← Toml.decodeRecord variantRecord none spot v with
  | some nodes => return nodes
  | none => throw (.missingField "css")

/-- Reads the variants. -/
def decode : Toml.Decoder Typography := fun spot v => do
  return ⟨← Toml.decodeTable decodeVariant spot v⟩

end Typography

end DocSite
