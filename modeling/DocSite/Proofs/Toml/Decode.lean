import DocSite.Proofs.Toml.Doubles
import DocSite.Toml.Decode

/-!
# What decoders read

  Two facts about decoders, for any record type. Written values are read back
  without a trace: a decoder that is given what a writer wrote returns the value
  and lists nothing. And what every field of a record establishes, the whole
  record has, whatever the document was; a field may rely on floats being doubles.
-/

namespace DocSite

namespace Toml

/-! ## Reading back -/

section reading
variable {α β ρ : Type}

/-- A decoder reads a value at every spot, and lists nothing. -/
def Reads (item : Decoder α) (v : Value) (x : α) : Prop := ∀ spot, item spot v = pure x

theorem decodeItems_map {item : Decoder α} {write : β → Value} {value : β → α} {xs : List β}
    (h : ∀ x ∈ xs, Reads item (write x) (value x)) (spot : Spot) (index : Nat) :
    decodeItems item spot index (xs.map write) = pure (xs.map value) := by
  induction xs generalizing index with
  | nil => rfl
  | cons x xs ih =>
    have hx := h x (by simp) (spot.item index)
    have hxs := ih (fun y hy => h y (by simp [hy])) (index + 1)
    simp [decodeItems, hx, hxs]

/-- A list is read back when each of its items is. -/
theorem reads_list {item : Decoder α} {write : β → Value} {value : β → α} {xs : List β}
    (h : ∀ x ∈ xs, Reads item (write x) (value x)) :
    Reads (decodeList item) (.array (xs.map write)) (xs.map value) :=
  fun spot => decodeItems_map h spot 0

theorem reads_strings (texts : List String) :
    Reads (decodeList decodeString) (.strings texts) texts := by
  have hitem : ∀ text ∈ texts, Reads decodeString (.string text) (id text) := fun _ _ _ => rfl
  simpa [Value.strings] using reads_list hitem

theorem decodeEntries_map {item : Decoder α} {write : α → Value} {entries : List (String × α)}
    (h : ∀ e ∈ entries, Reads item (write e.2) e.2) (spot : Spot) :
    decodeEntries item spot (entries.map fun (k, v) => (k, write v)) = pure entries := by
  induction entries with
  | nil => rfl
  | cons e rest ih =>
    obtain ⟨k, v⟩ := e
    have hv := h (k, v) (by simp) (spot.child k)
    have hrest := ih fun e he => h e (by simp [he])
    simp only at hv
    simp [decodeEntries, hv, hrest]

/-- A table is read back when each of its values is. -/
theorem reads_table {item : Decoder α} {write : α → Value} (t : Table α)
    (h : ∀ e ∈ t.entries, Reads item (write e.2) e.2) :
    Reads (decodeTable item) (.table (t.entries.map fun (k, v) => (k, write v))) t := by
  intro spot
  have hentries : Table.ofList t.entries = t := Table.ext_entries (Table.entries_ofList t.nodup)
  simp [decodeTable, Value.entries?, decodeEntries_map h, hentries]

/-- A choice is read back from its name, if the name finds it. -/
theorem choose_eq {choices : List (String × α)} {name : String} {x : α}
    (h : Table.lookup name choices = some x) : choose choices name = pure x := by
  simp [choose, h]

end reading

/-! ## What a decoder establishes -/

section establishing
variable {α ρ : Type}

/-- Whatever a decoder returns has a property. -/
def Yields (item : Decoder α) (p : α → Prop) : Prop :=
  ∀ spot v st x st', v.Doubles → (item spot v).run st = .ok (x, st') → p x

/-- The parts of a computation that succeeded. -/
theorem run_bind_eq_ok {β : Type} {m : Decode α} {f : α → Decode β} {st st' : List String} {y : β}
    (h : (m >>= f).run st = .ok (y, st')) :
    ∃ x mid, m.run st = .ok (x, mid) ∧ (f x).run mid = .ok (y, st') := by
  simp only [StateT.run_bind] at h
  cases hm : m.run st with
  | error e =>
    rw [hm] at h
    simp [bind, Except.bind] at h
  | ok r =>
    rw [hm] at h
    exact ⟨r.1, r.2, rfl, h⟩

theorem run_pure_eq_ok {x y : α} {st st' : List String}
    (h : (pure x : Decode α).run st = .ok (y, st')) : y = x := by
  rw [StateT.run_pure] at h
  exact (congrArg Prod.fst (Except.ok.inj h)).symm

theorem run_throw_ne_ok {e : DecodeError} {st : List String} {r : α × List String} :
    (throw e : Decode α).run st ≠ .ok r := by
  intro h
  change (Except.error e : Except DecodeError (α × List String)) = .ok r at h
  simp at h

theorem Value.Doubles.entries? {v : Value} (hv : v.Doubles) {entries : List (String × Value)}
    (h : v.entries? = some entries) : ∀ e ∈ entries, e.2.Doubles := by
  cases hv with
  | table hentries =>
    obtain rfl := Option.some.inj h
    exact hentries
  | datetime text =>
    obtain rfl := Option.some.inj h
    intro e he
    rw [List.mem_singleton.1 he]
    exact .string text
  | string s => simp [Value.entries?] at h
  | integer n => simp [Value.entries?] at h
  | float hx => simp [Value.entries?] at h
  | boolean b => simp [Value.entries?] at h
  | array hitems => simp [Value.entries?] at h

/-- A field keeps a property of records if what it decodes and stores does. -/
def Field.Keeps (f : Field ρ) (p : ρ → Prop) : Prop :=
  ∀ spot v st change st', v.Doubles → (f.decode spot v).run st = .ok (change, st') →
    ∀ r, p r → p (change r)

theorem keeps_field {name : String} {item : Decoder α} {store : α → ρ → ρ} {q : α → Prop}
    {p : ρ → Prop} (hitem : Yields item q) (hstore : ∀ x r, q x → p r → p (store x r)) :
    (field name item store).Keeps p := by
  intro spot v st change st' hv h r hr
  obtain ⟨x, mid, hx, h⟩ := run_bind_eq_ok h
  obtain rfl := run_pure_eq_ok h
  exact hstore x r (hitem _ _ _ _ _ hv hx) hr

/-- A field that a property does not look at keeps it. -/
theorem keeps_field_of_store {name : String} {item : Decoder α} {store : α → ρ → ρ}
    {p : ρ → Prop} (hstore : ∀ x r, p r → p (store x r)) : (field name item store).Keeps p :=
  keeps_field (q := fun _ => True) (fun _ _ _ _ _ _ _ => trivial) fun x r _ => hstore x r

theorem decodeFields_keeps {type : RecordType ρ} {p : ρ → Prop}
    (hfields : ∀ f ∈ type.fields, f.Keeps p) (spot : Spot) {entries : List (String × Value)}
    (hentries : ∀ e ∈ entries, e.2.Doubles) {start r : ρ} (hstart : p start) {st st' : List String}
    (h : (decodeFields type spot start entries).run st = .ok (r, st')) : p r := by
  induction entries generalizing start st with
  | nil =>
    obtain rfl := run_pure_eq_ok h
    exact hstart
  | cons e rest ih =>
    obtain ⟨key, v⟩ := e
    have hrest : ∀ e ∈ rest, e.2.Doubles := fun e he => hentries e (List.mem_cons_of_mem _ he)
    rw [decodeFields] at h
    -- The entry changes the record by its field, is refused, or is left out.
    split at h
    · rename_i f hfind
      obtain ⟨change, mid, hchange, h⟩ := run_bind_eq_ok h
      have hf := hfields f (List.mem_of_find?_eq_some hfind)
      exact ih hrest (hf _ _ _ _ _ (hentries (key, v) (by simp)) hchange start hstart) h
    · split at h
      · exact absurd h run_throw_ne_ok
      · obtain ⟨_, mid, -, h⟩ := run_bind_eq_ok h
        exact ih hrest hstart h

theorem decodePositions_keeps {type : RecordType ρ} {p : ρ → Prop} (spot : Spot)
    {items : List Value} (hitems : ∀ v ∈ items, v.Doubles) {fields : List (Field ρ)}
    (hfields : ∀ f ∈ fields, f.Keeps p) (index : Nat) {start r : ρ} (hstart : p start) {st st' : List String}
    (h : (decodePositions type spot index start fields items).run st = .ok (r, st')) : p r := by
  induction items generalizing fields index start st with
  | nil =>
    rw [decodePositions] at h
    split at h
    · obtain rfl := run_pure_eq_ok h
      exact hstart
    · exact absurd h run_throw_ne_ok
  | cons v rest ih =>
    cases fields with
    | nil =>
      rw [decodePositions] at h
      · split at h
        · exact absurd h run_throw_ne_ok
        · obtain rfl := run_pure_eq_ok h
          exact hstart
      · simp
    | cons f fields =>
      rw [decodePositions] at h
      obtain ⟨change, mid, hchange, h⟩ := run_bind_eq_ok h
      have hf := hfields f (by simp)
      exact ih (fun x hx => hitems x (List.mem_cons_of_mem _ hx))
        (fun g hg => hfields g (by simp [hg])) (index + 1)
        (hf _ _ _ _ _ (hitems v (by simp)) hchange start hstart) h

/-- What the start of a record has and every field keeps, a decoded record has. -/
theorem yields_record {type : RecordType ρ} {start : ρ} {p : ρ → Prop} (hstart : p start)
    (hfields : ∀ f ∈ type.fields, f.Keeps p) : Yields (decodeRecord type start) p := by
  intro spot v st r st' hv h
  unfold decodeRecord at h
  split at h
  · rename_i entries hentries
    exact decodeFields_keeps hfields spot (hv.entries? hentries) hstart h
  · cases hv with
    | array hitems => exact decodePositions_keeps spot hitems hfields 0 hstart h
  · exact absurd h run_throw_ne_ok

theorem yields_optional {item : Decoder α} {p : α → Prop} (hitem : Yields item p) :
    Yields (decodeOptional item) fun o => ∀ x, o = some x → p x := by
  intro spot v st o st' hv h
  obtain ⟨y, mid, hy, h⟩ := run_bind_eq_ok h
  rw [run_pure_eq_ok h]
  intro x hx
  rw [← Option.some.inj hx]
  exact hitem _ _ _ _ _ hv hy

theorem decodeItems_yields {item : Decoder α} {p : α → Prop} (hitem : Yields item p) (spot : Spot)
    {items : List Value} (hitems : ∀ v ∈ items, v.Doubles) (index : Nat) {xs : List α}
    {st st' : List String} (h : (decodeItems item spot index items).run st = .ok (xs, st')) :
    ∀ x ∈ xs, p x := by
  induction items generalizing index xs st st' with
  | nil =>
    rw [run_pure_eq_ok h]
    simp
  | cons v items ih =>
    obtain ⟨x, mid, hx, h⟩ := run_bind_eq_ok h
    obtain ⟨rest, mid', hrest, h⟩ := run_bind_eq_ok h
    rw [run_pure_eq_ok h]
    intro y hy
    rcases List.mem_cons.1 hy with rfl | hy
    · exact hitem _ _ _ _ _ (hitems v (by simp)) hx
    · exact ih (fun w hw => hitems w (List.mem_cons_of_mem _ hw)) (index + 1) hrest y hy

/-- What a decoder establishes for an item, holds for all items of a list. -/
theorem yields_list {item : Decoder α} {p : α → Prop} (hitem : Yields item p) :
    Yields (decodeList item) fun xs => ∀ x ∈ xs, p x := by
  intro spot v st xs st' hv h
  cases hv with
  | array hitems => exact decodeItems_yields hitem spot hitems 0 h
  | string s => exact absurd h run_throw_ne_ok
  | integer n => exact absurd h run_throw_ne_ok
  | float hx => exact absurd h run_throw_ne_ok
  | boolean b => exact absurd h run_throw_ne_ok
  | datetime text => exact absurd h run_throw_ne_ok
  | table hentries => exact absurd h run_throw_ne_ok

theorem yields_float : Yields decodeFloat Binary64.IsDouble := by
  intro spot v st x st' hv h
  unfold decodeFloat at h
  split at h
  · rw [run_pure_eq_ok h]
    cases hv with
    | float hx => exact hx
  · rw [run_pure_eq_ok h]
    exact Binary64.isDouble_ofInt _
  · exact absurd h run_throw_ne_ok

end establishing

end Toml

end DocSite
