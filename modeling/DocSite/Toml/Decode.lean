import DocSite.Toml.Value
import DocSite.Text.Quoted

/-!
# From TOML values to records

  A decoder turns a value into a domain value, or says why it cannot; on the way
  it lists the keys that it did not use. A record is decoded key by key in
  document order, so the first key that does not fit decides the error, and keys
  that are missing are noticed last. A record may also be written as an array of
  its fields in order.

  Some values are read as a whole before they are interpreted. Below such a value
  nothing is listed as unused.
-/

namespace DocSite.Toml

open DocSite.Text

/-! ## Why a value does not fit -/

/-- Why a value does not fit a record. -/
inductive DecodeError where
  | unknownVariant (name : String) (expected : List String)
  | unknownField (name : String) (expected : List String)
  | missingField (name : String)
  | invalidType (found : Value) (expected : String)
  | invalidValue (found : Value) (expected : String)
  | invalidLength (length : Nat) (expected : String)
  | noVariant (typeName : String)
  | notStringOrTable
  | notOneElement (more : Bool)
  | notUnit (found : Value)
  | other (text : String)

/-- The text of a float in a message: plain, with `.0` for integers. -/
def floatText (x : Binary64) : String := if x.isInteger then x.text ++ ".0" else x.text

/-- How a message names a value. -/
def Value.description : Value → String
  | .string s => "string " ++ quoteText s
  | .integer n => "integer " ++ ticked (toString n)
  | .float x => "floating point " ++ ticked (floatText x)
  | .boolean b => "boolean " ++ ticked (toString b)
  | .datetime _ => "map"
  | .array _ => "sequence"
  | .table _ => "map"

/-- How a message names the type of a value. -/
def Value.typeName : Value → String
  | .string _ => "string"
  | .integer _ => "integer"
  | .float _ => "float"
  | .boolean _ => "boolean"
  | .datetime _ => "datetime"
  | .array _ => "array"
  | .table _ => "table"

/-- A list of alternatives. -/
def alternatives : List String → String
  | [] => "there are no fields"
  | [a] => "expected " ++ ticked a
  | [a, b] => "expected " ++ ticked a ++ " or " ++ ticked b
  | many => "expected one of " ++ joinText ", " (many.map ticked)

/-- The text of an error. -/
def DecodeError.message : DecodeError → String
  | .unknownVariant name expected =>
    "unknown variant " ++ ticked name ++ ", " ++ alternatives expected
  | .unknownField name expected => "unknown field " ++ ticked name ++ ", " ++ alternatives expected
  | .missingField name => "missing field " ++ ticked name
  | .invalidType found expected =>
    "invalid type: " ++ found.description ++ ", expected " ++ expected
  | .invalidValue found expected =>
    "invalid value: " ++ found.description ++ ", expected " ++ expected
  | .invalidLength length expected =>
    "invalid length " ++ toString length ++ ", expected " ++ expected
  | .noVariant typeName => "data did not match any variant of untagged enum " ++ typeName
  | .notStringOrTable => "wanted string or table"
  | .notOneElement false => "wanted exactly 1 element, found 0 elements"
  | .notOneElement true => "wanted exactly 1 element, more than 1 element"
  | .notUnit (.array _) => "expected empty array"
  | .notUnit (.table _) => "expected empty table"
  | .notUnit found => "expected table, found " ++ found.typeName
  | .other text => text

/-! ## Decoders -/

/-- A computation that may fail and collects the paths of unused keys. -/
abbrev Decode := StateT (List String) (Except DecodeError)

/-- Where a value stands: the keys and indices on the way to it, and whether it is part of a
value that is read as a whole. -/
structure Spot where
  path : List String := []
  whole : Bool := false

namespace Spot

/-- The spot of a key or an index below a spot. -/
def child (spot : Spot) (key : String) : Spot := { spot with path := spot.path ++ [key] }

/-- The spot of an item. -/
def item (spot : Spot) (index : Nat) : Spot := spot.child (toString index)

/-- The spot of the content of an optional value. -/
def optional (spot : Spot) : Spot := spot.child "?"

/-- The spot of a value read as a whole. -/
def asWhole (spot : Spot) : Spot := { spot with whole := true }

/-- The path as it is listed. -/
def text (spot : Spot) : String := if spot.path.isEmpty then "." else joinText "." spot.path

end Spot

/-- Decodes the value at a spot. -/
abbrev Decoder (α : Type) := Spot → Value → Decode α

/-- Lists a key as unused. -/
def unused (spot : Spot) : Decode Unit :=
  if spot.whole then pure () else modify (· ++ [spot.text])

/-- The key under which a date-time shows its text. -/
def datetimeKey : String := "$__toml_private_datetime"

/-- The entries of a value that is a map: a table, or a date-time under its one key. -/
def Value.entries? : Value → Option (List (String × Value))
  | .table entries => some entries
  | .datetime text => some [(datetimeKey, .string text)]
  | _ => none

/-! ## Plain values -/

/-- A text. -/
def decodeString : Decoder String
  | _, .string s => pure s
  | _, v => throw (.invalidType v "a string")

/-- A path. -/
def decodePath : Decoder String
  | _, .string s => pure s
  | _, v => throw (.invalidType v "path string")

/-- A boolean. -/
def decodeBool : Decoder Bool
  | _, .boolean b => pure b
  | _, v => throw (.invalidType v "a boolean")

/-- A number below 65536. -/
def decodePort : Decoder Nat
  | _, .integer n =>
    if 0 ≤ n && n < 65536 then pure n.toNat else throw (.invalidValue (.integer n) "u16")
  | _, v => throw (.invalidType v "u16")

/-- A double; an integer is one too. -/
def decodeFloat : Decoder Binary64
  | _, .float x => pure x
  | _, .integer n => pure (Binary64.ofInt n)
  | _, v => throw (.invalidType v "f64")

/-- An optional value that is present. -/
def decodeOptional {α : Type} (item : Decoder α) : Decoder (Option α) := fun spot v => do
  return some (← item spot.optional v)

/-! ## Lists and maps -/

/-- The items of an array, numbered from an index. -/
def decodeItems {α : Type} (item : Decoder α) (spot : Spot) : Nat → List Value → Decode (List α)
  | _, [] => pure []
  | index, v :: rest => do
    let x ← item (spot.item index) v
    return x :: (← decodeItems item spot (index + 1) rest)

/-- A list. -/
def decodeList {α : Type} (item : Decoder α) : Decoder (List α)
  | spot, .array items => decodeItems item spot 0 items
  | _, v => throw (.invalidType v "a sequence")

/-- The entries of a map. -/
def decodeEntries {α : Type} (item : Decoder α) (spot : Spot) :
    List (String × Value) → Decode (List (String × α))
  | [] => pure []
  | (key, v) :: rest => do
    let x ← item (spot.child key) v
    return (key, x) :: (← decodeEntries item spot rest)

/-- A map from names to values. -/
def decodeTable {α : Type} (item : Decoder α) : Decoder (Table α) := fun spot v =>
  match v.entries? with
  | some entries => return Table.ofList (← decodeEntries item spot entries)
  | none => throw (.invalidType v "a map")

/-! ## Choices -/

/-- The choice with a name. -/
def choose {α : Type} (choices : List (String × α)) (name : String) : Decode α :=
  match Table.lookup name choices with
  | some x => pure x
  | none => throw (.unknownVariant name (choices.map Prod.fst))

/-- A choice by name. A table with one key names its choice by that key, and holds nothing. -/
def decodeChoice {α : Type} (choices : List (String × α)) : Decoder α
  | _, .string name => choose choices name
  | _, .table [(name, v)] => do
    let x ← choose choices name
    match v with
    | .array [] => pure x
    | .table [] => pure x
    | v => throw (.notUnit v)
  | _, .table [] => throw (.notOneElement false)
  | _, .table _ => throw (.notOneElement true)
  | _, _ => throw .notStringOrTable

/-- A choice by name inside a value that was read as a whole. -/
def decodeWholeChoice {α : Type} (choices : List (String × α)) : Decoder α
  | _, .string name => choose choices name
  | _, v =>
    match v.entries? with
    | some [(name, inner)] => do
      let x ← choose choices name
      match inner with
      | .table [] => pure x
      | inner => throw (.invalidType inner "unit")
    | some _ => throw (.invalidValue v "map with a single key")
    | none => throw (.invalidType v "string or map")

/-! ## Records -/

/-- A field of a record: its key, and how its value changes the record. -/
structure Field (ρ : Type) where
  name : String
  decode : Spot → Value → Decode (ρ → ρ)

/-- A field whose decoded value is stored by a function. -/
def field {ρ α : Type} (name : String) (item : Decoder α) (store : α → ρ → ρ) : Field ρ :=
  ⟨name, fun spot v => return store (← item spot v)⟩

/-- What becomes of keys that a record does not have. -/
inductive UnknownKeys where
  | listed
  | refused
  deriving DecidableEq, Repr

/-- What a record type is to its decoder. -/
structure RecordType (ρ : Type) where
  name : String
  fields : List (Field ρ)
  unknown : UnknownKeys := .listed
  /-- Whether every field may be missing. -/
  hasDefaults : Bool := true

/-- The entries of a record in document order. -/
def decodeFields {ρ : Type} (type : RecordType ρ) (spot : Spot) :
    ρ → List (String × Value) → Decode ρ
  | record, [] => pure record
  | record, (key, v) :: rest =>
    match type.fields.find? (·.name == key) with
    | some f => do
      let change ← f.decode (spot.child key) v
      decodeFields type spot (change record) rest
    | none =>
      match type.unknown with
      | .refused => throw (.unknownField key (type.fields.map (·.name)))
      | .listed => do
        unused (spot.child key)
        decodeFields type spot record rest

/-- A counted noun. -/
def elements (n : Nat) : String := toString n ++ (if n = 1 then " element" else " elements")

/-- The fields of a record in the order of its type, from an array. -/
def decodePositions {ρ : Type} (type : RecordType ρ) (spot : Spot) :
    Nat → ρ → List (Field ρ) → List Value → Decode ρ
  | index, record, _, [] =>
    if type.hasDefaults || index == type.fields.length then pure record
    else throw (.invalidLength index
      ("struct " ++ type.name ++ " with " ++ elements type.fields.length))
  | index, record, [], rest =>
    -- Surplus items are dropped, unless the array was read as a whole.
    if spot.whole then
      throw (.invalidLength (index + rest.length) (elements index ++ " in sequence"))
    else pure record
  | index, record, f :: fields, v :: rest => do
    let change ← f.decode (spot.item index) v
    decodePositions type spot (index + 1) (change record) fields rest

/-- A record, from the values its fields start with. -/
def decodeRecord {ρ : Type} (type : RecordType ρ) (start : ρ) : Decoder ρ := fun spot v =>
  match v.entries?, v with
  | some entries, _ => decodeFields type spot start entries
  | none, .array items => decodePositions type spot 0 start type.fields items
  | none, _ => throw (.invalidType v ("struct " ++ type.name))

/-! ## Documents -/

/-- Why a document gives no record. -/
inductive DocumentError where
  /-- The text is not TOML. -/
  | malformed
  /-- The document does not fit the record. -/
  | unfit (why : DecodeError)

/-- Decodes a whole document: the record, and the paths of the keys that were not used. -/
def decodeDocument {α : Type} (decoder : Decoder α) (entries : List (String × Value)) :
    Except DecodeError (α × List String) :=
  (decoder {} (.table entries)).run []

end DocSite.Toml
