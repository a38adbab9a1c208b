import DocSite.Proofs.Table
import DocSite.Proofs.Toml.Decode

/-!
# What becomes of the keys of a document

  A decoder takes each key of a value for something, or lists it as unused. What it
  may take keys for is said by a shape: the fields of records, the names of a table,
  the tag that chooses a record. Two kinds of keys get lost: those beside the one key
  that is read of a table, and those in surplus items of an array that stands for a
  record.

  The facts are stated for any decoder, and each way of putting decoders together
  has its rule.
-/

namespace DocSite

namespace Toml

/-! ## Paths to keys -/

/-- A step into a value: to a key of a table, or to an item of an array. -/
inductive Step where
  | key (name : String)
  | index (i : Nat)
  deriving DecidableEq, Repr

/-- A step as it is listed. -/
def Step.text : Step → String
  | .key name => name
  | .index i => toString i

/-- A path as it is listed. -/
def pathText (path : List Step) : String := Text.joinText "." (path.map Step.text)

/-- The path leads from the value to a key in it. -/
inductive HasKey : Value → List Step → Prop where
  | key {entries : List (String × Value)} {key : String} {v : Value} :
      Table.lookup key entries = some v → HasKey (.table entries) [.key key]
  | inKey {entries : List (String × Value)} {key : String} {v : Value} {path : List Step} :
      Table.lookup key entries = some v → HasKey v path →
      HasKey (.table entries) (.key key :: path)
  | inItem {items : List Value} {i : Nat} {v : Value} {path : List Step} :
      items[i]? = some v → HasKey v path → HasKey (.array items) (.index i :: path)

/-- The path or one that leads to it is listed. -/
def Listed (v : Value) (unknown : List String) (path : List Step) : Prop :=
  ∃ front, HasKey v front ∧ front <+: path ∧ pathText front ∈ unknown

theorem not_hasKey_nil_table (path : List Step) : ¬HasKey (.table []) path := by
  intro h
  cases h with
  | key hlookup => simp [Table.lookup] at hlookup
  | inKey hlookup _ => simp [Table.lookup] at hlookup

theorem not_hasKey_nil_array (path : List Step) : ¬HasKey (.array []) path := by
  intro h
  cases h with
  | inItem hitem _ => simp at hitem

/-- Taking one key away leaves the others where they are. -/
theorem hasKey_filter {entries : List (String × Value)} {name key : String} {path : List Step}
    (hne : key ≠ name) (h : HasKey (.table entries) (.key key :: path)) :
    HasKey (.table (entries.filter fun e => e.1 != name)) (.key key :: path) := by
  cases h with
  | key hlookup => exact .key ((Table.lookup_filter_ne hne entries).trans hlookup)
  | inKey hlookup hbelow =>
    exact .inKey ((Table.lookup_filter_ne hne entries).trans hlookup) hbelow

/-! ## Shapes -/

/-- What a decoder reads of a value. -/
inductive Shape where
  /-- A value without keys. -/
  | plain
  /-- A name, or a table with the name as its one key. -/
  | choice
  /-- An array of values. -/
  | list (item : Shape)
  /-- A table whose keys are names. -/
  | names (item : Shape)
  /-- A record: a table with fields as its keys, or an array of their values in order. -/
  | record (fields : List (String × Shape))
  /-- A record whose fields depend on the value of one more key; in an array it comes first. -/
  | tagged (tag : String) (kinds : List (String × List (String × Shape)))
  /-- A text, or a table of which one key is read. -/
  | single (key : String)

/-- What a key of a document is taken for. -/
inductive Fate where
  /-- A field of a record, a tag or a name. -/
  | field
  /-- The name of a choice, written as a key. -/
  | choice
  /-- Nothing: it stands beside the one key that is read. -/
  | beside
  /-- Nothing: it stands in an item for which the record has no field. -/
  | surplus
  deriving DecidableEq, Repr

/-- What a shape takes the key at a path for. -/
inductive Shape.Meets : Shape → Value → List Step → Fate → Prop where
  | field {fields : List (String × Shape)} {entries : List (String × Value)} {key : String}
      {shape : Shape} : Table.lookup key fields = some shape →
      Meets (.record fields) (.table entries) [.key key] .field
  | inField {fields : List (String × Shape)} {entries : List (String × Value)} {key : String}
      {shape : Shape} {v : Value} {path : List Step} {fate : Fate} :
      Table.lookup key fields = some shape → Table.lookup key entries = some v →
      shape.Meets v path fate →
      Meets (.record fields) (.table entries) (.key key :: path) fate
  | inPosition {fields : List (String × Shape)} {items : List Value} {i : Nat} {key : String}
      {shape : Shape} {v : Value} {path : List Step} {fate : Fate} :
      fields[i]? = some (key, shape) → items[i]? = some v → shape.Meets v path fate →
      Meets (.record fields) (.array items) (.index i :: path) fate
  | surplus {fields : List (String × Shape)} {items : List Value} {i : Nat} {path : List Step} :
      fields.length ≤ i → Meets (.record fields) (.array items) (.index i :: path) .surplus
  | inItem {shape : Shape} {items : List Value} {i : Nat} {v : Value} {path : List Step}
      {fate : Fate} : items[i]? = some v → shape.Meets v path fate →
      Meets (.list shape) (.array items) (.index i :: path) fate
  | name {shape : Shape} {entries : List (String × Value)} {key : String} :
      Meets (.names shape) (.table entries) [.key key] .field
  | inName {shape : Shape} {entries : List (String × Value)} {key : String} {v : Value}
      {path : List Step} {fate : Fate} : Table.lookup key entries = some v →
      shape.Meets v path fate → Meets (.names shape) (.table entries) (.key key :: path) fate
  | tag {tag : String} {kinds : List (String × List (String × Shape))}
      {entries : List (String × Value)} :
      Meets (.tagged tag kinds) (.table entries) [.key tag] .field
  | option {tag kind : String} {kinds : List (String × List (String × Shape))}
      {fields : List (String × Shape)} {entries : List (String × Value)} {path : List Step}
      {fate : Fate} : Table.lookup tag entries = some (.string kind) →
      Table.lookup kind kinds = some fields →
      (Shape.record fields).Meets (.table (entries.filter fun e => e.1 != tag)) path fate →
      Meets (.tagged tag kinds) (.table entries) path fate
  | optionAt {tag kind : String} {kinds : List (String × List (String × Shape))}
      {fields : List (String × Shape)} {items : List Value} {i : Nat} {path : List Step}
      {fate : Fate} : Table.lookup kind kinds = some fields →
      (Shape.record fields).Meets (.array items) (.index i :: path) fate →
      Meets (.tagged tag kinds) (.array (.string kind :: items)) (.index (i + 1) :: path) fate
  | choice {key : String} {v : Value} : Meets .choice (.table [(key, v)]) [.key key] .choice
  | single {key : String} {entries : List (String × Value)} :
      Meets (.single key) (.table entries) [.key key] .field
  | beside {key other : String} {entries : List (String × Value)} {path : List Step} :
      other ≠ key → Meets (.single key) (.table entries) (.key other :: path) .beside

theorem Shape.Meets.path_ne_nil {shape : Shape} {v : Value} {path : List Step} {fate : Fate}
    (h : shape.Meets v path fate) : path ≠ [] := by
  induction h with
  | option _ _ _ ih => exact ih
  | _ => simp

theorem Shape.Meets.eq_field {fields : List (String × Shape)} {entries : List (String × Value)}
    {key : String} {fate : Fate}
    (h : (Shape.record fields).Meets (.table entries) [.key key] fate) : fate = .field := by
  cases h with
  | field _ => rfl
  | inField _ _ hbelow => exact absurd rfl hbelow.path_ne_nil

/-- A key is taken for one thing only. -/
theorem Shape.Meets.unique {shape : Shape} {v : Value} {path : List Step} {fate fate' : Fate}
    (h : shape.Meets v path fate) (h' : shape.Meets v path fate') : fate = fate' := by
  -- Each rule of the shape is the only one for its kind of step.
  induction h with
  | field _ => exact h'.eq_field.symm
  | inField hshape hlookup hbelow ih =>
    cases h' with
    | field _ =>
      -- The path ends at the key, and nothing is met on an empty path.
      exact absurd rfl hbelow.path_ne_nil
    | inField hshape' hlookup' hbelow' =>
      cases hshape.symm.trans hshape'
      cases hlookup.symm.trans hlookup'
      exact ih hbelow'
  | inPosition hfield hitem hbelow ih =>
    cases h' with
    | inPosition hfield' hitem' hbelow' =>
      cases hfield.symm.trans hfield'
      cases hitem.symm.trans hitem'
      exact ih hbelow'
    | surplus hlength => simp [List.getElem?_eq_none hlength] at hfield
  | surplus hlength =>
    cases h' with
    | inPosition hfield' _ _ => simp [List.getElem?_eq_none hlength] at hfield'
    | surplus _ => rfl
  | inItem hitem hbelow ih =>
    cases h' with
    | inItem hitem' hbelow' =>
      cases hitem.symm.trans hitem'
      exact ih hbelow'
  | name =>
    cases h' with
    | name => rfl
    | inName _ hbelow => exact absurd rfl hbelow.path_ne_nil
  | inName hlookup hbelow ih =>
    cases h' with
    | name => exact absurd rfl hbelow.path_ne_nil
    | inName hlookup' hbelow' =>
      cases hlookup.symm.trans hlookup'
      exact ih hbelow'
  | tag =>
    -- An option with the name of the tag would be a field too.
    cases h' with
    | tag => rfl
    | option _ _ hoption => exact hoption.eq_field.symm
  | option htag hkind hoption ih =>
    cases h' with
    | tag => exact hoption.eq_field
    | option htag' hkind' hoption' =>
      cases htag.symm.trans htag'
      cases hkind.symm.trans hkind'
      exact ih hoption'
  | optionAt hkind hoption ih =>
    cases h' with
    | optionAt hkind' hoption' =>
      cases hkind.symm.trans hkind'
      exact ih hoption'
  | choice =>
    cases h'
    rfl
  | single =>
    cases h' with
    | single => rfl
    | beside hother => exact absurd rfl hother
  | beside hother =>
    cases h' with
    | single => exact absurd rfl hother
    | beside _ => rfl

/-! ## What a decoder does with keys -/

/-- The path, or one that leads to it, is listed as a path from the root through the spot. -/
def Spot.Lists (spot : Spot) (v : Value) (st : List String) (path : List Step) : Prop :=
  ∃ front, HasKey v front ∧ front <+: path ∧
    Text.joinText "." (spot.path ++ front.map Step.text) ∈ st

/-- Every key of the value at the spot is taken for something or listed. Nothing is listed below a
value that is read as a whole. -/
def Spot.Accounts (spot : Spot) (shape : Shape) (v : Value) (st : List String) : Prop :=
  ∀ path, HasKey v path →
    (∃ fate, shape.Meets v path fate) ∨ (spot.whole = false ∧ spot.Lists v st path)

section rules
variable {α β ρ : Type} {whole : Bool} {spot : Spot} {v : Value} {st st' : List String}
  {path : List Step} {shape : Shape}

theorem Spot.Lists.mono (h : spot.Lists v st path) (hst : st <+: st') : spot.Lists v st' path := by
  obtain ⟨front, hkey, hfront, hmem⟩ := h
  exact ⟨front, hkey, hfront, hst.subset hmem⟩

theorem Spot.Accounts.mono (h : spot.Accounts shape v st) (hst : st <+: st') :
    spot.Accounts shape v st' := by
  intro path hpath
  rcases h path hpath with hmeets | ⟨hwhole, hlists⟩
  · exact .inl hmeets
  · exact .inr ⟨hwhole, hlists.mono hst⟩

/-- A map is accounted for as the table of its entries; a date-time has no keys. -/
theorem Spot.accounts_of_entries? {entries : List (String × Value)}
    (hentries : v.entries? = some entries) (h : spot.Accounts shape (.table entries) st) :
    spot.Accounts shape v st := by
  intro path hpath
  cases v with
  | table own =>
    obtain rfl : own = entries := Option.some.inj hentries
    exact h path hpath
  | datetime text => cases hpath
  | _ => simp [Value.entries?] at hentries

/-- What is listed below a key is listed above it. -/
theorem Spot.lists_key {entries : List (String × Value)} {key : String}
    (hlookup : Table.lookup key entries = some v) (h : (spot.child key).Lists v st path) :
    spot.Lists (.table entries) st (.key key :: path) := by
  obtain ⟨front, hkey, hfront, hmem⟩ := h
  refine ⟨.key key :: front, .inKey hlookup hkey, ?_, ?_⟩
  · simpa using hfront
  · simpa [child, Step.text] using hmem

/-- What is listed below an item is listed above it. -/
theorem Spot.lists_item {items : List Value} {i : Nat} (hitem : items[i]? = some v)
    (h : (spot.item i).Lists v st path) : spot.Lists (.array items) st (.index i :: path) := by
  obtain ⟨front, hkey, hfront, hmem⟩ := h
  refine ⟨.index i :: front, .inItem hitem hkey, ?_, ?_⟩
  · simpa using hfront
  · simpa [item, child, Step.text] using hmem

/-- A decoder accounts for the keys of all that it accepts, at spots of one kind. -/
def Accounts (item : Decoder α) (shape : Shape) (whole : Bool) : Prop :=
  ∀ spot v st x st', spot.whole = whole → (item spot v).run st = .ok (x, st') →
    st <+: st' ∧ spot.Accounts shape v st'

/-! ### Values without keys -/

/-- A decoder that accepts only values without keys, and lists nothing. -/
def ReadsPlain (item : Decoder α) : Prop :=
  ∀ spot v st x st', (item spot v).run st = .ok (x, st') → st' = st ∧ ∀ path, ¬HasKey v path

theorem ReadsPlain.accounts {item : Decoder α} (h : ReadsPlain item) (shape : Shape) :
    Accounts item shape whole := by
  intro spot v st x st' _ hrun
  obtain ⟨hst, hnone⟩ := h spot v st x st' hrun
  refine ⟨hst ▸ List.prefix_rfl, ?_⟩
  intro path hpath
  exact absurd hpath (hnone path)

theorem run_pure_state {x y : α} (h : (pure x : Decode α).run st = .ok (y, st')) : st' = st := by
  rw [StateT.run_pure] at h
  exact (congrArg Prod.snd (Except.ok.inj h)).symm

/-- Whether the value is neither an array nor a table. -/
def Value.isLeaf : Value → Bool
  | .array _ => false
  | .table _ => false
  | _ => true

theorem not_hasKey_of_isLeaf (h : v.isLeaf = true) (path : List Step) : ¬HasKey v path := by
  intro hpath
  cases hpath <;> simp [Value.isLeaf] at h

/-- A decoder that fails on arrays and tables and only looks at the rest. -/
theorem readsPlain_of_leaf {item : Decoder α}
    (h : ∀ spot v, (∃ e, item spot v = throw e) ∨ (v.isLeaf = true ∧ ∃ x, item spot v = pure x)) :
    ReadsPlain item := by
  intro spot v st x st' hrun
  rcases h spot v with ⟨e, he⟩ | ⟨hleaf, y, hy⟩
  · rw [he] at hrun
    exact absurd hrun run_throw_ne_ok
  · rw [hy] at hrun
    exact ⟨run_pure_state hrun, not_hasKey_of_isLeaf hleaf⟩

theorem readsPlain_string : ReadsPlain decodeString := by
  apply readsPlain_of_leaf
  intro spot v
  cases v with
  | string s => exact .inr ⟨rfl, s, rfl⟩
  | _ => exact .inl ⟨_, rfl⟩

theorem readsPlain_path : ReadsPlain decodePath := by
  apply readsPlain_of_leaf
  intro spot v
  cases v with
  | string s => exact .inr ⟨rfl, s, rfl⟩
  | _ => exact .inl ⟨_, rfl⟩

theorem readsPlain_bool : ReadsPlain decodeBool := by
  apply readsPlain_of_leaf
  intro spot v
  cases v with
  | boolean b => exact .inr ⟨rfl, b, rfl⟩
  | _ => exact .inl ⟨_, rfl⟩

theorem readsPlain_port : ReadsPlain decodePort := by
  apply readsPlain_of_leaf
  intro spot v
  cases v with
  | integer n =>
    by_cases hrange : (0 ≤ n && n < 65536) = true
    · exact .inr ⟨rfl, n.toNat, if_pos hrange⟩
    · exact .inl ⟨_, if_neg hrange⟩
  | _ => exact .inl ⟨_, rfl⟩

theorem readsPlain_float : ReadsPlain decodeFloat := by
  apply readsPlain_of_leaf
  intro spot v
  cases v with
  | float x => exact .inr ⟨rfl, x, rfl⟩
  | integer n => exact .inr ⟨rfl, Binary64.ofInt n, rfl⟩
  | _ => exact .inl ⟨_, rfl⟩

theorem ReadsPlain.optional {item : Decoder α} (h : ReadsPlain item) :
    ReadsPlain (decodeOptional item) := by
  intro spot v st x st' hrun
  obtain ⟨y, mid, hy, hrun⟩ := run_bind_eq_ok hrun
  obtain ⟨hmid, hnone⟩ := h _ _ _ _ _ hy
  exact ⟨(run_pure_state hrun).trans hmid, hnone⟩

theorem decodeItems_plain {item : Decoder α} (hitem : ReadsPlain item) {items : List Value}
    {index : Nat} {xs : List α} (h : (decodeItems item spot index items).run st = .ok (xs, st')) :
    st' = st ∧ ∀ v ∈ items, ∀ path, ¬HasKey v path := by
  induction items generalizing index xs st st' with
  | nil => exact ⟨run_pure_state h, by simp⟩
  | cons v rest ih =>
    obtain ⟨x, mid, hx, h⟩ := run_bind_eq_ok h
    obtain ⟨xs, mid', hxs, h⟩ := run_bind_eq_ok h
    obtain ⟨hmid, hnone⟩ := hitem _ _ _ _ _ hx
    obtain ⟨hmid', hrest⟩ := ih hxs
    refine ⟨(run_pure_state h).trans (hmid'.trans hmid), ?_⟩
    intro w hw
    rcases List.mem_cons.1 hw with hw | hw
    · exact hw ▸ hnone
    · exact hrest w hw

theorem ReadsPlain.list {item : Decoder α} (hitem : ReadsPlain item) :
    ReadsPlain (decodeList item) := by
  intro spot v st xs st' h
  cases v with
  | array items =>
    obtain ⟨hst, hnone⟩ := decodeItems_plain hitem h
    refine ⟨hst, ?_⟩
    intro path hpath
    cases hpath with
    | inItem hget hbelow => exact hnone _ (List.mem_of_getElem? hget) _ hbelow
  | _ => exact absurd h run_throw_ne_ok

/-! ### Results that are only changed afterwards -/

/-- Keys are accounted for by the decoder, not by what is made of its result. -/
theorem Accounts.bind {item : Decoder α} (h : Accounts item shape whole) {f : α → Decode β}
    (hf : ∀ x st y st', (f x).run st = .ok (y, st') → st' = st) :
    Accounts (fun spot v => item spot v >>= f) shape whole := by
  intro spot v st y st' hwhole hrun
  obtain ⟨x, mid, hx, hrun⟩ := run_bind_eq_ok hrun
  rw [hf x mid y st' hrun]
  exact h spot v st x mid hwhole hx

/-- A value read as a whole is accounted for below an optional spot too: nothing is listed. -/
theorem Accounts.optional {item : Decoder α} (h : Accounts item shape true) :
    Accounts (decodeOptional item) shape true := by
  intro spot v st o st' hwhole hrun
  obtain ⟨x, mid, hx, hrun⟩ := run_bind_eq_ok hrun
  obtain ⟨hgrows, haccounts⟩ := h spot.optional v st x mid hwhole hx
  rw [run_pure_state hrun]
  refine ⟨hgrows, ?_⟩
  intro path hpath
  rcases haccounts path hpath with hmeets | ⟨hlisted, -⟩
  · exact .inl hmeets
  · exact absurd (hlisted.symm.trans hwhole) (by simp)

/-! ### Lists and tables -/

theorem decodeItems_accounts {item : Decoder α} (hitem : Accounts item shape whole)
    (hwhole : spot.whole = whole) {items : List Value} {index : Nat} {xs : List α}
    (h : (decodeItems item spot index items).run st = .ok (xs, st')) :
    st <+: st' ∧ ∀ i v, items[i]? = some v → (spot.item (index + i)).Accounts shape v st' := by
  induction items generalizing index xs st st' with
  | nil => exact ⟨run_pure_state h ▸ List.prefix_rfl, by simp⟩
  | cons first rest ih =>
    obtain ⟨x, mid, hx, h⟩ := run_bind_eq_ok h
    obtain ⟨xs, mid', hxs, h⟩ := run_bind_eq_ok h
    obtain ⟨hfirst, haccounts⟩ := hitem (spot.item index) first st x mid hwhole hx
    obtain ⟨hlater, hrest⟩ := ih hxs
    rw [run_pure_state h]
    refine ⟨hfirst.trans hlater, ?_⟩
    intro i v hget
    -- The first item is accounted for by what was listed then, and more is listed since.
    cases i with
    | zero =>
      obtain rfl : first = v := by simpa using hget
      exact haccounts.mono hlater
    | succ i =>
      have hspot : index + (i + 1) = index + 1 + i := by omega
      rw [hspot]
      exact hrest i v (by simpa using hget)

theorem accounts_list {item : Decoder α} (hitem : Accounts item shape whole) :
    Accounts (decodeList item) (.list shape) whole := by
  intro spot v st xs st' hwhole h
  cases v with
  | array items =>
    obtain ⟨hgrows, haccounts⟩ := decodeItems_accounts hitem hwhole h
    refine ⟨hgrows, ?_⟩
    intro path hpath
    cases hpath with
    | @inItem _ i v path hget hbelow =>
      have haccounts := haccounts i v hget
      rw [Nat.zero_add] at haccounts
      rcases haccounts path hbelow with ⟨fate, hmeets⟩ | ⟨hwhole, hlists⟩
      · exact .inl ⟨fate, .inItem hget hmeets⟩
      · exact .inr ⟨hwhole, Spot.lists_item hget hlists⟩
  | _ => exact absurd h run_throw_ne_ok

theorem decodeEntries_accounts {item : Decoder α} (hitem : Accounts item shape whole)
    (hwhole : spot.whole = whole) {entries : List (String × Value)} {xs : List (String × α)}
    (h : (decodeEntries item spot entries).run st = .ok (xs, st')) :
    st <+: st' ∧ ∀ e ∈ entries, (spot.child e.1).Accounts shape e.2 st' := by
  induction entries generalizing xs st st' with
  | nil => exact ⟨run_pure_state h ▸ List.prefix_rfl, by simp⟩
  | cons first rest ih =>
    obtain ⟨key, v⟩ := first
    obtain ⟨x, mid, hx, h⟩ := run_bind_eq_ok h
    obtain ⟨xs, mid', hxs, h⟩ := run_bind_eq_ok h
    obtain ⟨hfirst, haccounts⟩ := hitem (spot.child key) v st x mid hwhole hx
    obtain ⟨hlater, hrest⟩ := ih hxs
    rw [run_pure_state h]
    refine ⟨hfirst.trans hlater, ?_⟩
    intro e he
    rcases List.mem_cons.1 he with he | he
    · subst he
      exact haccounts.mono hlater
    · exact hrest e he

theorem accounts_table {item : Decoder α} (hitem : Accounts item shape whole) :
    Accounts (decodeTable item) (.names shape) whole := by
  intro spot v st t st' hwhole h
  unfold decodeTable at h
  split at h
  · rename_i entries hentries
    obtain ⟨xs, mid, hxs, h⟩ := run_bind_eq_ok h
    obtain ⟨hgrows, haccounts⟩ := decodeEntries_accounts hitem hwhole hxs
    rw [run_pure_state h]
    refine ⟨hgrows, Spot.accounts_of_entries? hentries ?_⟩
    -- A key of the table is a name, and what is below it belongs to its item.
    intro path hpath
    cases hpath with
    | key hlookup => exact .inl ⟨_, .name⟩
    | @inKey _ key v path hlookup hbelow =>
      rcases haccounts _ (Table.mem_of_lookup hlookup) path hbelow with
        ⟨fate, hmeets⟩ | ⟨hwhole, hlists⟩
      · exact .inl ⟨fate, .inName hlookup hmeets⟩
      · exact .inr ⟨hwhole, Spot.lists_key hlookup hlists⟩
  · exact absurd h run_throw_ne_ok

/-! ### Choices -/

theorem run_choose_state {choices : List (String × α)} {name : String} {x : α}
    (h : (choose choices name).run st = .ok (x, st')) : st' = st := by
  unfold choose at h
  split at h
  · exact run_pure_state h
  · exact absurd h run_throw_ne_ok

/-- A table with one key, and nothing behind it, has that key only. -/
theorem accounts_single_key {key : String} {inner : Value}
    (hinner : ∀ path, ¬HasKey inner path) :
    spot.Accounts .choice (.table [(key, inner)]) st := by
  intro path hpath
  cases hpath with
  | @key _ other v hlookup =>
    obtain rfl : key = other := by
      by_contra hne
      simp [Table.lookup, hne] at hlookup
    exact .inl ⟨_, .choice⟩
  | @inKey _ other v path hlookup hbelow =>
    rw [Table.lookup] at hlookup
    split at hlookup
    · rw [← Option.some.inj hlookup] at hbelow
      exact absurd hbelow (hinner path)
    · simp [Table.lookup] at hlookup

theorem accounts_choice (choices : List (String × α)) :
    Accounts (decodeChoice choices) .choice whole := by
  intro spot v st x st' _ h
  unfold decodeChoice at h
  split at h
  · refine ⟨run_choose_state h ▸ List.prefix_rfl, ?_⟩
    intro path hpath
    exact absurd hpath (not_hasKey_of_isLeaf rfl path)
  · obtain ⟨y, mid, hy, h⟩ := run_bind_eq_ok h
    have hmid := run_choose_state hy
    split at h
    · rw [run_pure_state h, hmid]
      exact ⟨List.prefix_rfl, accounts_single_key not_hasKey_nil_array⟩
    · rw [run_pure_state h, hmid]
      exact ⟨List.prefix_rfl, accounts_single_key not_hasKey_nil_table⟩
    · exact absurd h run_throw_ne_ok
  · exact absurd h run_throw_ne_ok
  · exact absurd h run_throw_ne_ok
  · exact absurd h run_throw_ne_ok

theorem accounts_wholeChoice (choices : List (String × α)) :
    Accounts (decodeWholeChoice choices) .choice whole := by
  intro spot v st x st' _ h
  unfold decodeWholeChoice at h
  split at h
  · refine ⟨run_choose_state h ▸ List.prefix_rfl, ?_⟩
    intro path hpath
    exact absurd hpath (not_hasKey_of_isLeaf rfl path)
  · split at h
    · rename_i name inner hentries
      obtain ⟨y, mid, hy, h⟩ := run_bind_eq_ok h
      have hmid := run_choose_state hy
      split at h
      · rw [run_pure_state h, hmid]
        exact ⟨List.prefix_rfl,
          Spot.accounts_of_entries? hentries (accounts_single_key not_hasKey_nil_table)⟩
      · exact absurd h run_throw_ne_ok
    · exact absurd h run_throw_ne_ok
    · exact absurd h run_throw_ne_ok

/-! ### Records -/

/-- A field accounts for the keys of its value. -/
def Field.Accounts (f : Field ρ) (shape : Shape) (whole : Bool) : Prop :=
  Toml.Accounts f.decode shape whole

theorem accounts_field {name : String} {item : Decoder α} {store : α → ρ → ρ}
    (h : Toml.Accounts item shape whole) : (field name item store).Accounts shape whole := by
  apply Accounts.bind h
  intro x st y st' hrun
  exact run_pure_state hrun

/-- The fields have the names and account for the shapes that are given, in this order. -/
def HasShapes (fields : List (Field ρ)) (shapes : List (String × Shape)) (whole : Bool) : Prop :=
  List.Forall₂ (fun f (shape : String × Shape) => f.name = shape.1 ∧ f.Accounts shape.2 whole)
    fields shapes

theorem HasShapes.exists_of_find? {fields : List (Field ρ)} {shapes : List (String × Shape)}
    (h : HasShapes fields shapes whole) {key : String} {f : Field ρ}
    (hfind : fields.find? (·.name == key) = some f) :
    ∃ shape, Table.lookup key shapes = some shape ∧ f.Accounts shape whole := by
  induction h with
  | nil => simp at hfind
  | @cons g first _ _ hg _ ih =>
    obtain ⟨name, shape⟩ := first
    obtain ⟨hname, haccounts⟩ := hg
    by_cases hkey : g.name = key
    · obtain rfl : g = f := by simpa [hkey] using hfind
      exact ⟨shape, by rw [Table.lookup, if_pos (hname.symm.trans hkey)], haccounts⟩
    · obtain ⟨found, hlookup, hf⟩ := ih (by simpa [hkey] using hfind)
      have hother : name ≠ key := fun h => hkey (hname.trans h)
      exact ⟨found, by rw [Table.lookup, if_neg hother, hlookup], hf⟩

/-- A key of a record is a field, whose value is accounted for, or it is listed. -/
theorem decodeFields_accounts {type : RecordType ρ} {shapes : List (String × Shape)}
    (hfields : HasShapes type.fields shapes whole) (hunknown : type.unknown = .refused ∨ whole = false)
    (hwhole : spot.whole = whole) {start r : ρ} {entries : List (String × Value)}
    (h : (decodeFields type spot start entries).run st = .ok (r, st')) :
    st <+: st' ∧ ∀ e ∈ entries,
      (∃ shape, Table.lookup e.1 shapes = some shape ∧ (spot.child e.1).Accounts shape e.2 st') ∨
      (whole = false ∧ (spot.child e.1).text ∈ st') := by
  induction entries generalizing start st with
  | nil => exact ⟨run_pure_state h ▸ List.prefix_rfl, by simp⟩
  | cons first rest ih =>
    obtain ⟨key, v⟩ := first
    rw [decodeFields] at h
    -- The key is a field, is refused, or is listed.
    split at h
    · rename_i f hfind
      obtain ⟨change, mid, hchange, h⟩ := run_bind_eq_ok h
      obtain ⟨shape, hshape, hf⟩ := hfields.exists_of_find? hfind
      obtain ⟨hfirst, haccounts⟩ := hf (spot.child key) v st change mid hwhole hchange
      obtain ⟨hlater, hrest⟩ := ih h
      refine ⟨hfirst.trans hlater, ?_⟩
      intro e he
      rcases List.mem_cons.1 he with he | he
      · subst he
        exact .inl ⟨shape, hshape, haccounts.mono hlater⟩
      · exact hrest e he
    · split at h
      · exact absurd h run_throw_ne_ok
      · rename_i hlisted
        -- Where unknown keys are not refused, the record is not part of a whole.
        have hopen : whole = false := hunknown.resolve_left (by simp [hlisted])
        obtain ⟨_, mid, hmid, h⟩ := run_bind_eq_ok h
        have hadded : mid = st ++ [(spot.child key).text] := by
          have hchild : (spot.child key).whole = false := hwhole.trans hopen
          rw [unused, hchild] at hmid
          exact (congrArg Prod.snd (Except.ok.inj hmid)).symm
        obtain ⟨hlater, hrest⟩ := ih h
        refine ⟨(hadded ▸ List.prefix_append _ _ : st <+: mid).trans hlater, ?_⟩
        intro e he
        rcases List.mem_cons.1 he with he | he
        · subst he
          exact .inr ⟨hopen, hlater.subset (by simp [hadded])⟩
        · exact hrest e he

/-- An item of an array is the value of the field in its place, which is accounted for, or the
record has no such field. -/
theorem decodePositions_accounts {type : RecordType ρ} {items : List Value}
    {fields : List (Field ρ)} {shapes : List (String × Shape)}
    (hfields : HasShapes fields shapes whole) (hwhole : spot.whole = whole)
    {index : Nat} {start r : ρ}
    (h : (decodePositions type spot index start fields items).run st = .ok (r, st')) :
    st <+: st' ∧ ∀ i v, items[i]? = some v →
      (∃ field, shapes[i]? = some field ∧ (spot.item (index + i)).Accounts field.2 v st') ∨
      shapes.length ≤ i := by
  induction items generalizing index start fields shapes st with
  | nil =>
    rw [decodePositions] at h
    split at h
    · exact ⟨run_pure_state h ▸ List.prefix_rfl, by simp⟩
    · exact absurd h run_throw_ne_ok
  | cons first rest ih =>
    cases hfields with
    | nil =>
      rw [decodePositions] at h
      · split at h
        · exact absurd h run_throw_ne_ok
        · refine ⟨run_pure_state h ▸ List.prefix_rfl, ?_⟩
          intro i v _
          exact .inr (Nat.zero_le i)
      · simp
    | @cons f field fields shapes hf hrest =>
      rw [decodePositions] at h
      obtain ⟨change, mid, hchange, h⟩ := run_bind_eq_ok h
      obtain ⟨hfirst, haccounts⟩ := hf.2 (spot.item index) first st change mid hwhole hchange
      obtain ⟨hlater, hothers⟩ := ih hrest h
      refine ⟨hfirst.trans hlater, ?_⟩
      intro i v hget
      -- The place in the array counts from the item in front.
      cases i with
      | zero =>
        obtain rfl : first = v := by simpa using hget
        exact .inl ⟨field, rfl, haccounts.mono hlater⟩
      | succ i =>
        have hspot : index + (i + 1) = index + 1 + i := by omega
        rcases hothers i v (by simpa using hget) with ⟨other, hother, hitem⟩ | hsurplus
        · exact .inl ⟨other, by simpa using hother, hspot ▸ hitem⟩
        · exact .inr (by simpa using hsurplus)

/-- A record accounts for its keys if its fields do, and if it refuses unknown keys wherever they
would not be listed. -/
theorem accounts_record {type : RecordType ρ} {shapes : List (String × Shape)}
    (hfields : HasShapes type.fields shapes whole)
    (hunknown : type.unknown = .refused ∨ whole = false) (start : ρ) :
    Accounts (decodeRecord type start) (.record shapes) whole := by
  intro spot v st r st' hwhole h
  unfold decodeRecord at h
  split at h
  · rename_i entries hentries
    obtain ⟨hgrows, hkeys⟩ := decodeFields_accounts hfields hunknown hwhole h
    refine ⟨hgrows, Spot.accounts_of_entries? hentries ?_⟩
    -- A key that is listed accounts for all that is below it.
    have hlisted : ∀ key v, Table.lookup key entries = some v → (spot.child key).text ∈ st' →
        ∀ path, spot.Lists (.table entries) st' (.key key :: path) := by
      intro key v hlookup hmem path
      refine ⟨[.key key], .key hlookup, by simp, ?_⟩
      simpa [Spot.text, Spot.child, Step.text] using hmem
    intro path hpath
    cases hpath with
    | @key _ key v hlookup =>
      rcases hkeys _ (Table.mem_of_lookup hlookup) with ⟨shape, hshape, -⟩ | ⟨hopen, hmem⟩
      · exact .inl ⟨_, .field hshape⟩
      · exact .inr ⟨hwhole.trans hopen, hlisted key v hlookup hmem []⟩
    | @inKey _ key v path hlookup hbelow =>
      rcases hkeys _ (Table.mem_of_lookup hlookup) with
        ⟨shape, hshape, hvalue⟩ | ⟨hopen, hmem⟩
      · rcases hvalue path hbelow with ⟨fate, hmeets⟩ | ⟨hopen, hlists⟩
        · exact .inl ⟨fate, .inField hshape hlookup hmeets⟩
        · exact .inr ⟨hopen, Spot.lists_key hlookup hlists⟩
      · exact .inr ⟨hwhole.trans hopen, hlisted key v hlookup hmem path⟩
  · rename_i items _
    obtain ⟨hgrows, hitems⟩ := decodePositions_accounts hfields hwhole h
    refine ⟨hgrows, ?_⟩
    intro path hpath
    cases hpath with
    | @inItem _ i v path hget hbelow =>
      -- Only items of the array are met, in the order of the fields.
      rcases hitems i v hget with ⟨field, hfield, hvalue⟩ | hsurplus
      · rw [Nat.zero_add] at hvalue
        rcases hvalue path hbelow with ⟨fate, hmeets⟩ | ⟨hopen, hlists⟩
        · exact .inl ⟨fate, .inPosition hfield hget hmeets⟩
        · exact .inr ⟨hopen, Spot.lists_item hget hlists⟩
      · exact .inl ⟨_, .surplus hsurplus⟩
  · exact absurd h run_throw_ne_ok

/-! ### Documents -/

/-- Every key of a document that is accepted is taken for something, or it is listed with its
path, or a key on the way to it is. -/
theorem Accounts.document {decoder : Decoder α} (h : Accounts decoder shape false)
    {entries : List (String × Value)} {x : α} {unknown : List String}
    (hrun : decodeDocument decoder entries = .ok (x, unknown)) (hpath : HasKey (.table entries) path) :
    (∃ fate, shape.Meets (.table entries) path fate) ∨ Listed (.table entries) unknown path := by
  obtain ⟨-, haccounts⟩ := h {} (.table entries) [] x unknown rfl hrun
  rcases haccounts path hpath with hmeets | ⟨-, hlists⟩
  · exact .inl hmeets
  · exact .inr hlists

end rules

end Toml

end DocSite
