import DocSite.Toml.Scanner

/-!
# Reading TOML documents

  Values, key-value lines and table headers, and the rules of TOML 1.0 on which
  tables may be opened and extended. A table that a header opens after it was
  only implied by a longer header moves to the place of its own header.
-/

namespace DocSite.Toml

open Scanner

/-! ## Documents under construction -/

/-- An entry of a table that is being read: a finished value, a table that later lines may
extend, or an array of tables. -/
inductive Node where
  | value (v : Value)
  | table (implicit dotted : Bool) (entries : List (String × Node))
  | tables (items : List (List (String × Node)))
  deriving Inhabited

/-- The entries of a table that is being read. -/
abbrev Entries := List (String × Node)

mutual

/-- The finished value of an entry. -/
def Node.finish : Node → Value
  | .value v => v
  | .table _ _ entries => .table (finishEntries entries)
  | .tables items => .array (finishTables items)

/-- The finished values of a table's entries. -/
def finishEntries : List (String × Node) → List (String × Value)
  | [] => []
  | (key, node) :: rest => (key, node.finish) :: finishEntries rest

/-- The finished tables of an array of tables. -/
def finishTables : List (List (String × Node)) → List Value
  | [] => []
  | entries :: rest => .table (finishEntries entries) :: finishTables rest

end

/-- Edits the last table of an array of tables, with a result. -/
def editLast {β : Type} (f : Entries → Option (β × Entries)) :
    List Entries → Option (β × List Entries)
  | [] => none
  | [last] => (f last).map fun (b, last) => (b, [last])
  | entries :: rest => (editLast f rest).map fun (b, rest) => (b, entries :: rest)

/-- Edits the table at a path, with a result. Missing tables on the way are created as implied
ones, and `dotted` tells that the path is that of a dotted key: such a key extends only tables
that no header has opened. `f` learns whether the table it edits was made by dotted keys. -/
def editAt {β : Type} (dotted : Bool) (f : Bool → Entries → Option (β × Entries)) :
    List String → Bool → Entries → Option (β × Entries)
  | [], isDotted, entries => f isDotted entries
  | key :: path, _, entries =>
    match Table.lookup key entries with
    | none => do
      let (b, inner) ← editAt dotted f path dotted []
      some (b, entries ++ [(key, .table true dotted inner)])
    | some (.value _) => none
    | some (.tables items) => do
      let (b, items) ← editLast (editAt dotted f path false) items
      some (b, Table.put key (.tables items) entries)
    | some (.table implicit wasDotted inner) =>
      -- A table that a header has opened is closed to dotted keys from outside.
      if dotted && !implicit then none
      else do
        let (b, inner) ← editAt dotted f path wasDotted inner
        some (b, Table.put key (.table implicit wasDotted inner) entries)

/-- Edits the table at the path of a header. -/
def editTable (f : Entries → Option Entries) (path : List String) (entries : Entries) :
    Option Entries :=
  (editAt false (fun _ inner => (f inner).map ((), ·)) path false entries).map Prod.snd

/-- Adds a value under a dotted key. The key must be new, and only tables made by dotted keys
can be reached through one. -/
def insertValue (path : List String) (key : String) (v : Value) (entries : Entries) :
    Option Entries :=
  let add (isDotted : Bool) (inner : Entries) : Option (Unit × Entries) :=
    -- A key of one part goes into the table of a header, a longer one into a table of dotted keys.
    if isDotted == path.isEmpty then none
    else if (Table.lookup key inner).isSome then none
    else some ((), inner ++ [(key, .value v)])
  (editAt true add path false entries).map Prod.snd

/-- A key as the tables it goes through and its last part. -/
def splitKey : List String → List String × String
  | [] => ([], "")
  | [key] => ([], key)
  | part :: rest =>
    let (path, key) := splitKey rest
    (part :: path, key)

/-! ## Values -/

/-- The items of an array after its bracket; `item` reads one. A comma may follow the last. -/
def arrayItems? (item : List Char → Option (Value × List Char)) :
    (room : Nat) → List Char → Option (List Value × List Char)
  | 0, _ => none
  | room + 1, cs =>
    match skipTrivia false cs with
    | ']' :: rest => some ([], rest)
    | cs => do
      let (v, rest) ← item cs
      match skipTrivia false rest with
      | ',' :: rest =>
        let (vs, rest) ← arrayItems? item room rest
        some (v :: vs, rest)
      | ']' :: rest => some ([v], rest)
      | _ => none

/-- A key and its value; `item` reads the value. -/
def keyValue? (item : List Char → Option (Value × List Char)) (cs : List Char) :
    Option (List String × Value × List Char) := do
  let (parts, rest) ← key? cs
  let (v, rest) ← item (skipSpaces (← mark? '=' rest))
  some (parts, v, rest)

/-- The members of an inline table after its brace. No comma follows the last. -/
def inlineMembers? (item : List Char → Option (Value × List Char)) :
    (room : Nat) → Entries → List Char → Option (Entries × List Char)
  | 0, _, _ => none
  | room + 1, entries, cs => do
    let (parts, v, rest) ← keyValue? item cs
    let (path, key) := splitKey parts
    let entries ← insertValue path key v entries
    match skipSpaces rest with
    | ',' :: rest => inlineMembers? item room entries rest
    | '\x7d' :: rest => some (entries, rest)
    | _ => none

/-- A value inside which at most `depth` containers may be nested. -/
def value? : (depth : Nat) → List Char → Option (Value × List Char)
  | _, '"' :: rest => (string? ('"' :: rest)).map fun (s, r) => (.string s, r)
  | _, '\'' :: rest => (string? ('\'' :: rest)).map fun (s, r) => (.string s, r)
  | 0, '[' :: _ => none
  | 0, '\x7b' :: _ => none
  | depth + 1, '[' :: rest =>
    (arrayItems? (value? depth) (rest.length + 1) rest).map fun (vs, r) => (.array vs, r)
  | depth + 1, '\x7b' :: rest =>
    match skipSpaces rest with
    | '\x7d' :: rest => some (.table [], rest)
    | rest =>
      (inlineMembers? (value? depth) (rest.length + 1) [] rest).map fun (entries, r) =>
        (.table (finishEntries entries), r)
  | _, cs =>
    let (w, rest) := word cs
    (scalarWord? w).map fun v => (v, rest)

/-! ## Lines -/

/-- A document while its lines are read: the tables finished so far, and the one that the last
header opened. -/
structure Draft where
  root : Entries := []
  current : Entries := []
  path : List String := []
  inArray : Bool := false

namespace Draft

/-- Puts the open table into its place. -/
def close (d : Draft) : Option Draft :=
  match d.path with
  | [] => some { root := d.current }
  | parts =>
    let (path, key) := splitKey parts
    let place (entries : Entries) : Option Entries :=
      if d.inArray then
        match Table.lookup key entries with
        | some (.tables items) => some (Table.put key (.tables (items ++ [d.current])) entries)
        | _ => none
      else some (entries ++ [(key, .table false false d.current)])
    (editTable place path d.root).map fun root => { root }

/-- Opens the table of a header `[key]`. Only a table that longer headers implied may exist
already; it is taken out of its place, to be put where this header stands. -/
def openTable (d : Draft) (parts : List String) : Option Draft := do
  let d ← d.close
  let (path, key) := splitKey parts
  let take (_ : Bool) (entries : Entries) : Option (Entries × Entries) :=
    match Table.lookup key entries with
    | none => some ([], entries)
    -- The table was only implied so far: it moves to the place of its header.
    | some (.table true false inner) => some (inner, entries.filter (·.1 != key))
    | some _ => none
  let (current, root) ← editAt false take path false d.root
  some { root, current, path := parts }

/-- Opens the next table of a header `[[key]]`. -/
def openArrayTable (d : Draft) (parts : List String) : Option Draft := do
  let d ← d.close
  let (path, key) := splitKey parts
  let prepare (entries : Entries) : Option Entries :=
    match Table.lookup key entries with
    | none => some (entries ++ [(key, .tables [])])
    | some (.tables _) => some entries
    | some _ => none
  let root ← editTable prepare path d.root
  some { root, path := parts, inArray := true }

/-- Adds a key-value line to the open table. -/
def addLine (d : Draft) (parts : List String) (v : Value) : Option Draft := do
  let (path, key) := splitKey parts
  let current ← insertValue path key v d.current
  some { d with current }

end Draft

/-- One line with something on it, and the text after it. -/
def line? (d : Draft) : List Char → Option (Draft × List Char)
  | '[' :: '[' :: rest => do
    let (parts, rest) ← key? rest
    let rest ← lineEnd? (← mark? ']' (← mark? ']' rest))
    some (← d.openArrayTable parts, rest)
  | '[' :: rest => do
    let (parts, rest) ← key? rest
    let rest ← lineEnd? (← mark? ']' rest)
    some (← d.openTable parts, rest)
  | cs => do
    let (parts, v, rest) ← keyValue? (value? nestingLimit) cs
    let rest ← lineEnd? rest
    some (← d.addLine parts v, rest)

/-- The lines of a document. -/
def lines? : (room : Nat) → Draft → List Char → Option Draft
  | 0, _, _ => none
  | room + 1, d, cs =>
    match skipTrivia false cs with
    | [] => some d
    | cs => do
      let (d, rest) ← line? d cs
      lines? room d rest

/-- Drops a byte order mark. -/
def dropMark : List Char → List Char
  | '\ufeff' :: rest => rest
  | cs => cs

/-- Reads a document; `none` when it is not TOML. -/
def parse? (s : String) : Option (List (String × Value)) := do
  let d ← lines? (s.length + 1) {} (dropMark s.toList)
  let d ← d.close
  some (finishEntries d.root)

end DocSite.Toml
