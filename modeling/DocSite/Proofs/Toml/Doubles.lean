import DocSite.Proofs.Number.Rounding
import DocSite.Proofs.Table
import DocSite.Toml.Reader

/-!
# The numbers of a document

  Every float that is read is a value of the format. The invariant is one of
  values and of tables under construction: a scalar is the only place where a
  number comes from, and all that the reader does with entries moves them about.
-/

namespace DocSite.Toml

open Scanner

/-! ## The invariant -/

/-- All floats in a value are doubles. -/
inductive Value.Doubles : Value → Prop
  | string (s : String) : Doubles (.string s)
  | integer (n : Int) : Doubles (.integer n)
  | float {x : Binary64} : x.IsDouble → Doubles (.float x)
  | boolean (b : Bool) : Doubles (.boolean b)
  | datetime (text : String) : Doubles (.datetime text)
  | array {items : List Value} : (∀ v ∈ items, v.Doubles) → Doubles (.array items)
  | table {entries : List (String × Value)} : (∀ e ∈ entries, e.2.Doubles) →
      Doubles (.table entries)

/-- All floats in an entry of a table that is being read are doubles. -/
inductive Node.Doubles : Node → Prop
  | value {v : Value} : v.Doubles → Doubles (.value v)
  | table {implicit dotted : Bool} {entries : Entries} : (∀ e ∈ entries, e.2.Doubles) →
      Doubles (.table implicit dotted entries)
  | tables {items : List Entries} : (∀ entries ∈ items, ∀ e ∈ entries, e.2.Doubles) →
      Doubles (.tables items)

/-- All floats in a table that is being read are doubles. -/
def DoublesIn (entries : Entries) : Prop := ∀ e ∈ entries, e.2.Doubles

theorem doublesIn_nil : DoublesIn [] := by
  intro e he
  simp at he

theorem DoublesIn.concat {entries : Entries} {key : String} {node : Node}
    (h : DoublesIn entries) (hnode : node.Doubles) : DoublesIn (entries ++ [(key, node)]) := by
  intro e he
  rcases List.mem_append.1 he with he | he
  · exact h e he
  · rw [List.mem_singleton.1 he]
    exact hnode

theorem DoublesIn.put {entries : Entries} {key : String} {node : Node}
    (h : DoublesIn entries) (hnode : node.Doubles) : DoublesIn (Table.put key node entries) := by
  induction entries with
  | nil =>
    intro e he
    rw [List.mem_singleton.1 he]
    exact hnode
  | cons first entries ih =>
    obtain ⟨k, v⟩ := first
    have hrest : DoublesIn entries := fun e he => h e (List.mem_cons_of_mem _ he)
    rw [Table.put]
    -- The node takes the place of the one with its key, or it goes behind the others.
    split
    · intro e he
      rcases List.mem_cons.1 he with rfl | he
      · exact hnode
      · exact hrest e he
    · intro e he
      rcases List.mem_cons.1 he with rfl | he
      · exact h (k, v) (by simp)
      · exact ih hrest e he

theorem DoublesIn.lookup {entries : Entries} {key : String} {node : Node}
    (h : DoublesIn entries) (hlookup : Table.lookup key entries = some node) : node.Doubles :=
  h (key, node) (Table.mem_of_lookup hlookup)

mutual

theorem Node.Doubles.finish : (node : Node) → node.Doubles → node.finish.Doubles
  | .value v, .value h => by
    rw [Node.finish]
    exact h
  | .table implicit dotted entries, .table h => by
    rw [Node.finish]
    exact .table (doubles_finishEntries entries h)
  | .tables items, .tables h => by
    rw [Node.finish]
    exact .array (doubles_finishTables items h)

theorem doubles_finishEntries : (entries : List (String × Node)) →
    (∀ e ∈ entries, e.2.Doubles) → ∀ e ∈ finishEntries entries, e.2.Doubles
  | [], _, e, he => by simp [finishEntries] at he
  | (key, node) :: rest, h, e, he => by
    rw [finishEntries] at he
    rcases List.mem_cons.1 he with rfl | he
    · exact Node.Doubles.finish node (h (key, node) (by simp))
    · exact doubles_finishEntries rest (fun x hx => h x (List.mem_cons_of_mem _ hx)) e he

theorem doubles_finishTables : (items : List (List (String × Node))) →
    (∀ entries ∈ items, ∀ e ∈ entries, e.2.Doubles) → ∀ v ∈ finishTables items, v.Doubles
  | [], _, v, hv => by simp [finishTables] at hv
  | entries :: rest, h, v, hv => by
    rw [finishTables] at hv
    rcases List.mem_cons.1 hv with rfl | hv
    · exact .table (doubles_finishEntries entries (h entries (by simp)))
    · exact doubles_finishTables rest (fun x hx => h x (List.mem_cons_of_mem _ hx)) v hv

end

/-! ## Edits -/

/-- An edit keeps the invariant, and its result has a property. -/
def KeepsDoubles {β : Type} (f : Entries → Option (β × Entries)) (p : β → Prop) : Prop :=
  ∀ ⦃entries b after⦄, DoublesIn entries → f entries = some (b, after) → p b ∧ DoublesIn after

theorem keepsDoubles_editLast {β : Type} {f : Entries → Option (β × Entries)} {p : β → Prop}
    (hf : KeepsDoubles f p) {items after : List Entries} {b : β}
    (h : ∀ entries ∈ items, DoublesIn entries) (hedit : editLast f items = some (b, after)) :
    p b ∧ ∀ entries ∈ after, DoublesIn entries := by
  induction items generalizing after with
  | nil => simp [editLast] at hedit
  | cons first items ih =>
    -- The edit is that of the last table; those in front of it stay.
    cases items with
    | nil =>
      rw [editLast] at hedit
      obtain ⟨⟨b', last⟩, hlast, heq⟩ := Option.map_eq_some_iff.1 hedit
      obtain ⟨rfl, rfl⟩ := Prod.mk.inj heq
      obtain ⟨hb, hdoubles⟩ := hf (h first (by simp)) hlast
      exact ⟨hb, by simpa using hdoubles⟩
    | cons next items =>
      rw [editLast] at hedit
      · obtain ⟨⟨b', rest⟩, hrest, heq⟩ := Option.map_eq_some_iff.1 hedit
        obtain ⟨rfl, rfl⟩ := Prod.mk.inj heq
        obtain ⟨hb, hdoubles⟩ := ih (fun x hx => h x (List.mem_cons_of_mem _ hx)) hrest
        refine ⟨hb, fun entries hentries => ?_⟩
        rcases List.mem_cons.1 hentries with rfl | hentries
        · exact h _ (by simp)
        · exact hdoubles entries hentries
      · simp

/-- An edit of a table inside keeps the invariant if it does so in that table. -/
theorem keepsDoubles_editAt {β : Type} {f : Bool → Entries → Option (β × Entries)} {p : β → Prop}
    (hf : ∀ isDotted, KeepsDoubles (f isDotted) p) (dotted : Bool) (path : List String)
    (isDotted : Bool) : KeepsDoubles (editAt dotted f path isDotted) p := by
  induction path generalizing isDotted with
  | nil => exact hf isDotted
  | cons key path ih =>
    intro entries b after h hedit
    rw [editAt] at hedit
    -- The way goes into a new table, into the last one of an array, or into one that is there.
    split at hedit
    · obtain ⟨⟨b', inner⟩, hinner, heq⟩ := Option.bind_eq_some_iff.1 hedit
      obtain ⟨rfl, rfl⟩ := Prod.mk.inj (Option.some.inj heq)
      obtain ⟨hb, hdoubles⟩ := ih dotted doublesIn_nil hinner
      exact ⟨hb, h.concat (.table hdoubles)⟩
    · simp at hedit
    · rename_i items hlookup
      obtain ⟨⟨b', done⟩, hdone, heq⟩ := Option.bind_eq_some_iff.1 hedit
      obtain ⟨rfl, rfl⟩ := Prod.mk.inj (Option.some.inj heq)
      cases h.lookup hlookup with
      | tables hitems =>
        obtain ⟨hb, hdoubles⟩ := keepsDoubles_editLast (ih false) hitems hdone
        exact ⟨hb, h.put (.tables hdoubles)⟩
    · rename_i implicit wasDotted inner hlookup
      split at hedit
      · simp at hedit
      · obtain ⟨⟨b', done⟩, hdone, heq⟩ := Option.bind_eq_some_iff.1 hedit
        obtain ⟨rfl, rfl⟩ := Prod.mk.inj (Option.some.inj heq)
        cases h.lookup hlookup with
        | table hinner =>
          obtain ⟨hb, hdoubles⟩ := ih wasDotted hinner hdone
          exact ⟨hb, h.put (.table hdoubles)⟩

theorem doublesIn_editTable {f : Entries → Option Entries}
    (hf : ∀ ⦃entries after⦄, DoublesIn entries → f entries = some after → DoublesIn after)
    {path : List String} {entries after : Entries} (h : DoublesIn entries)
    (hedit : editTable f path entries = some after) : DoublesIn after := by
  obtain ⟨⟨b, root⟩, hroot, rfl⟩ := Option.map_eq_some_iff.1 hedit
  refine (keepsDoubles_editAt (p := fun _ => True) (fun _ => ?_) false path false h hroot).2
  intro inner b t hinner hmap
  obtain ⟨t', ht, heq⟩ := Option.map_eq_some_iff.1 hmap
  obtain ⟨-, rfl⟩ := Prod.mk.inj heq
  exact ⟨trivial, hf hinner ht⟩

theorem doublesIn_insertValue {path : List String} {key : String} {v : Value}
    {entries after : Entries} (hv : v.Doubles) (h : DoublesIn entries)
    (hinsert : insertValue path key v entries = some after) : DoublesIn after := by
  obtain ⟨⟨b, root⟩, hroot, rfl⟩ := Option.map_eq_some_iff.1 hinsert
  refine (keepsDoubles_editAt (p := fun _ => True) (fun isDotted => ?_) true path false h hroot).2
  intro inner b t hinner hadd
  dsimp only at hadd
  split at hadd
  · simp at hadd
  · split at hadd
    · simp at hadd
    · obtain ⟨-, rfl⟩ := Prod.mk.inj (Option.some.inj hadd)
      exact ⟨trivial, hinner.concat (.value hv)⟩

/-! ## Values -/

theorem doubles_ranged? {n : Int} {v : Value} (h : ranged? n = some v) : v.Doubles := by
  unfold ranged? at h
  split at h
  · rw [← Option.some.inj h]
    exact .integer n
  · simp at h

theorem doubles_integer? {w : List Char} {v : Value} (h : integer? w = some v) : v.Doubles := by
  unfold integer? at h
  split at h
  all_goals
    obtain ⟨ds, -, h⟩ := Option.bind_eq_some_iff.1 h
    exact doubles_ranged? h

theorem doubles_float? {w : List Char} {v : Value} (h : float? w = some v) : v.Doubles := by
  unfold float? at h
  dsimp only at h
  split at h
  · rw [← Option.some.inj h]
    exact .float trivial
  · split at h
    · rw [← Option.some.inj h]
      exact .float trivial
    · obtain ⟨ds, -, h⟩ := Option.bind_eq_some_iff.1 h
      obtain ⟨tail, -, h⟩ := Option.bind_eq_some_iff.1 h
      obtain ⟨x, hx, h⟩ := Option.bind_eq_some_iff.1 h
      split at h
      · simp at h
      · rw [← Option.some.inj h]
        exact .float (Binary64.isDouble_of_parse? hx)

theorem doubles_datetime? {w : List Char} {v : Value} (h : datetime? w = some v) : v.Doubles := by
  unfold datetime? at h
  split at h
  · rw [← Option.some.inj h]
    exact .datetime _
  · split at h
    · obtain ⟨time, -, h⟩ := Option.bind_eq_some_iff.1 h
      obtain ⟨offset, -, h⟩ := Option.bind_eq_some_iff.1 h
      rw [← Option.some.inj h]
      exact .datetime _
    · simp at h
  · split at h
    · rw [← Option.some.inj h]
      exact .datetime _
    · simp at h

theorem doubles_scalarWord? {w : List Char} {v : Value} (h : scalarWord? w = some v) :
    v.Doubles := by
  unfold scalarWord? at h
  split at h
  · rw [← Option.some.inj h]
    exact .boolean true
  · split at h
    · rw [← Option.some.inj h]
      exact .boolean false
    · -- A word that is no boolean is a date, a float or an integer, in this order.
      cases hdatetime : datetime? w with
      | some x =>
        rw [hdatetime] at h
        exact Option.some.inj h ▸ doubles_datetime? hdatetime
      | none =>
        cases hfloat : float? w with
        | some x =>
          rw [hdatetime, hfloat] at h
          exact Option.some.inj h ▸ doubles_float? hfloat
        | none =>
          rw [hdatetime, hfloat] at h
          exact doubles_integer? h

/-- A reader of values that reads doubles. -/
def ReadsDoubles (item : List Char → Option (Value × List Char)) : Prop :=
  ∀ ⦃cs v rest⦄, item cs = some (v, rest) → v.Doubles

theorem doubles_arrayItems? {item : List Char → Option (Value × List Char)}
    (hitem : ReadsDoubles item) {room : Nat} {cs rest : List Char} {vs : List Value}
    (h : arrayItems? item room cs = some (vs, rest)) : ∀ v ∈ vs, v.Doubles := by
  induction room generalizing cs vs rest with
  | zero => simp [arrayItems?] at h
  | succ room ih =>
    rw [arrayItems?] at h
    split at h
    · obtain ⟨rfl, -⟩ := Prod.mk.inj (Option.some.inj h)
      simp
    · -- An item was read, and behind it come more of them or the end.
      obtain ⟨⟨v, after⟩, hv, h⟩ := Option.bind_eq_some_iff.1 h
      have hfirst := hitem hv
      dsimp only at h
      split at h
      · obtain ⟨⟨more, last⟩, hmore, h⟩ := Option.bind_eq_some_iff.1 h
        obtain ⟨rfl, -⟩ := Prod.mk.inj (Option.some.inj h)
        intro x hx
        rcases List.mem_cons.1 hx with rfl | hx
        · exact hfirst
        · exact ih hmore x hx
      · obtain ⟨rfl, -⟩ := Prod.mk.inj (Option.some.inj h)
        intro x hx
        rw [List.mem_singleton.1 hx]
        exact hfirst
      · simp at h

theorem doubles_keyValue? {item : List Char → Option (Value × List Char)}
    (hitem : ReadsDoubles item) {cs rest : List Char} {parts : List String} {v : Value}
    (h : keyValue? item cs = some (parts, v, rest)) : v.Doubles := by
  obtain ⟨⟨key, after⟩, -, h⟩ := Option.bind_eq_some_iff.1 h
  obtain ⟨equals, -, h⟩ := Option.bind_eq_some_iff.1 h
  obtain ⟨⟨x, last⟩, hx, h⟩ := Option.bind_eq_some_iff.1 h
  obtain ⟨-, h⟩ := Prod.mk.inj (Option.some.inj h)
  obtain ⟨rfl, -⟩ := Prod.mk.inj h
  exact hitem hx

theorem doublesIn_inlineMembers? {item : List Char → Option (Value × List Char)}
    (hitem : ReadsDoubles item) {room : Nat} {cs rest : List Char} {entries after : Entries}
    (hentries : DoublesIn entries)
    (h : inlineMembers? item room entries cs = some (after, rest)) : DoublesIn after := by
  induction room generalizing cs entries with
  | zero => simp [inlineMembers?] at h
  | succ room ih =>
    rw [inlineMembers?] at h
    obtain ⟨⟨parts, v, last⟩, hkey, h⟩ := Option.bind_eq_some_iff.1 h
    obtain ⟨added, hadded, h⟩ := Option.bind_eq_some_iff.1 h
    have hmore := doublesIn_insertValue (doubles_keyValue? hitem hkey) hentries hadded
    split at h
    · exact ih hmore h
    · obtain ⟨rfl, -⟩ := Prod.mk.inj (Option.some.inj h)
      exact hmore
    · simp at h

theorem doubles_stringValue {cs rest : List Char} {v : Value}
    (h : (string? cs).map (fun e => (Value.string e.1, e.2)) = some (v, rest)) : v.Doubles := by
  obtain ⟨⟨s, after⟩, -, heq⟩ := Option.map_eq_some_iff.1 h
  obtain ⟨rfl, -⟩ := Prod.mk.inj heq
  exact .string s

theorem doubles_wordValue {cs rest : List Char} {v : Value}
    (h : (scalarWord? (word cs).1).map (fun v => (v, (word cs).2)) = some (v, rest)) :
    v.Doubles := by
  obtain ⟨x, hx, heq⟩ := Option.map_eq_some_iff.1 h
  obtain ⟨rfl, -⟩ := Prod.mk.inj heq
  exact doubles_scalarWord? hx

/-- Every value that is read has doubles for floats. -/
theorem readsDoubles_value? (depth : Nat) : ReadsDoubles (value? depth) := by
  induction depth with
  | zero =>
    -- At the limit there are no arrays and no inline tables.
    intro cs v rest h
    unfold value? at h
    split at h
    · exact doubles_stringValue h
    · exact doubles_stringValue h
    · simp at h
    · simp at h
    · rename_i heq
      simp at heq
    · rename_i heq
      simp at heq
    · exact doubles_wordValue h
  | succ depth ih =>
    intro cs v rest h
    unfold value? at h
    split at h
    · exact doubles_stringValue h
    · exact doubles_stringValue h
    · simp at h
    · simp at h
    · rename_i heq
      obtain rfl := Nat.succ.inj heq
      obtain ⟨⟨vs, after⟩, hvs, heq⟩ := Option.map_eq_some_iff.1 h
      obtain ⟨rfl, -⟩ := Prod.mk.inj heq
      exact .array (doubles_arrayItems? ih hvs)
    · rename_i heq
      obtain rfl := Nat.succ.inj heq
      split at h
      · obtain ⟨rfl, -⟩ := Prod.mk.inj (Option.some.inj h)
        exact .table (by simp)
      · obtain ⟨⟨entries, after⟩, hentries, heq⟩ := Option.map_eq_some_iff.1 h
        obtain ⟨rfl, -⟩ := Prod.mk.inj heq
        have hdoubles := doublesIn_inlineMembers? ih doublesIn_nil hentries
        exact .table (doubles_finishEntries entries hdoubles)
    · exact doubles_wordValue h

/-! ## Documents -/

/-- All floats in a draft are doubles. -/
structure Draft.Doubles (d : Draft) : Prop where
  root : DoublesIn d.root
  current : DoublesIn d.current

namespace Draft

variable {d d' : Draft}

theorem Doubles.close (h : d.Doubles) (hclose : d.close = some d') : d'.Doubles := by
  unfold Draft.close at hclose
  split at hclose
  · rw [← Option.some.inj hclose]
    exact ⟨h.current, doublesIn_nil⟩
  · obtain ⟨root, hroot, rfl⟩ := Option.map_eq_some_iff.1 hclose
    refine ⟨doublesIn_editTable ?_ h.root hroot, doublesIn_nil⟩
    intro entries after hentries hplace
    -- The open table goes back to the array it was taken from, or becomes an entry.
    split at hplace
    · split at hplace
      · rename_i items hlookup
        obtain rfl := Option.some.inj hplace
        cases hentries.lookup hlookup with
        | tables hitems =>
          refine hentries.put (.tables fun x hx => ?_)
          rcases List.mem_append.1 hx with hx | hx
          · exact hitems x hx
          · rw [List.mem_singleton.1 hx]
            exact h.current
      · simp at hplace
    · obtain rfl := Option.some.inj hplace
      exact hentries.concat (.table h.current)

theorem Doubles.openTable {parts : List String} (h : d.Doubles)
    (hopen : d.openTable parts = some d') : d'.Doubles := by
  obtain ⟨closed, hclose, hopen⟩ := Option.bind_eq_some_iff.1 hopen
  obtain ⟨⟨current, root⟩, hedit, hopen⟩ := Option.bind_eq_some_iff.1 hopen
  obtain rfl := Option.some.inj hopen
  have htake := keepsDoubles_editAt (p := DoublesIn) (fun _ => ?_) false _ false
    (h.close hclose).root hedit
  · exact ⟨htake.2, htake.1⟩
  · -- The table that is taken out of its place holds doubles, as do those that stay.
    intro entries taken after hentries heq
    dsimp only at heq
    split at heq
    · obtain ⟨rfl, rfl⟩ := Prod.mk.inj (Option.some.inj heq)
      exact ⟨doublesIn_nil, hentries⟩
    · rename_i inner hlookup
      obtain ⟨rfl, rfl⟩ := Prod.mk.inj (Option.some.inj heq)
      cases hentries.lookup hlookup with
      | table hinner =>
        exact ⟨hinner, fun e he => hentries e (List.mem_of_mem_filter he)⟩
    · simp at heq

theorem Doubles.openArrayTable {parts : List String} (h : d.Doubles)
    (hopen : d.openArrayTable parts = some d') : d'.Doubles := by
  obtain ⟨closed, hclose, hopen⟩ := Option.bind_eq_some_iff.1 hopen
  obtain ⟨root, hedit, hopen⟩ := Option.bind_eq_some_iff.1 hopen
  obtain rfl := Option.some.inj hopen
  refine ⟨doublesIn_editTable ?_ (h.close hclose).root hedit, doublesIn_nil⟩
  intro entries after hentries hprepare
  split at hprepare
  · obtain rfl := Option.some.inj hprepare
    exact hentries.concat (.tables (by simp))
  · obtain rfl := Option.some.inj hprepare
    exact hentries
  · simp at hprepare

theorem Doubles.addLine {parts : List String} {v : Value} (h : d.Doubles) (hv : v.Doubles)
    (hadd : d.addLine parts v = some d') : d'.Doubles := by
  obtain ⟨current, hcurrent, hadd⟩ := Option.bind_eq_some_iff.1 hadd
  obtain rfl := Option.some.inj hadd
  exact ⟨h.root, doublesIn_insertValue hv h.current hcurrent⟩

/-- One line keeps the invariant. -/
theorem Doubles.line? {cs rest : List Char} (h : d.Doubles)
    (hline : line? d cs = some (d', rest)) : d'.Doubles := by
  unfold Toml.line? at hline
  -- The header of an array, the header of a table, or a key with its value.
  split at hline
  · obtain ⟨⟨parts, after⟩, -, hline⟩ := Option.bind_eq_some_iff.1 hline
    obtain ⟨first, -, hline⟩ := Option.bind_eq_some_iff.1 hline
    obtain ⟨second, -, hline⟩ := Option.bind_eq_some_iff.1 hline
    obtain ⟨last, -, hline⟩ := Option.bind_eq_some_iff.1 hline
    obtain ⟨opened, hopen, hline⟩ := Option.bind_eq_some_iff.1 hline
    obtain ⟨rfl, -⟩ := Prod.mk.inj (Option.some.inj hline)
    exact h.openArrayTable hopen
  · obtain ⟨⟨parts, after⟩, -, hline⟩ := Option.bind_eq_some_iff.1 hline
    obtain ⟨first, -, hline⟩ := Option.bind_eq_some_iff.1 hline
    obtain ⟨last, -, hline⟩ := Option.bind_eq_some_iff.1 hline
    obtain ⟨opened, hopen, hline⟩ := Option.bind_eq_some_iff.1 hline
    obtain ⟨rfl, -⟩ := Prod.mk.inj (Option.some.inj hline)
    exact h.openTable hopen
  · obtain ⟨⟨parts, v, after⟩, hkey, hline⟩ := Option.bind_eq_some_iff.1 hline
    obtain ⟨last, -, hline⟩ := Option.bind_eq_some_iff.1 hline
    obtain ⟨added, hadd, hline⟩ := Option.bind_eq_some_iff.1 hline
    obtain ⟨rfl, -⟩ := Prod.mk.inj (Option.some.inj hline)
    exact h.addLine (doubles_keyValue? (readsDoubles_value? _) hkey) hadd

/-- All lines keep the invariant. -/
theorem Doubles.lines? {room : Nat} {cs : List Char} (h : d.Doubles)
    (hlines : lines? room d cs = some d') : d'.Doubles := by
  induction room generalizing d cs with
  | zero => simp [Toml.lines?] at hlines
  | succ room ih =>
    rw [Toml.lines?] at hlines
    split at hlines
    · exact Option.some.inj hlines ▸ h
    · obtain ⟨⟨next, rest⟩, hline, hlines⟩ := Option.bind_eq_some_iff.1 hlines
      exact ih (h.line? hline) hlines

end Draft

/-- The floats of a document that is read are doubles. -/
theorem doubles_of_parse? {s : String} {entries : List (String × Value)}
    (h : parse? s = some entries) : (Value.table entries).Doubles := by
  obtain ⟨d, hlines, h⟩ := Option.bind_eq_some_iff.1 h
  obtain ⟨closed, hclose, h⟩ := Option.bind_eq_some_iff.1 h
  obtain rfl := Option.some.inj h
  have hstart : Draft.Doubles {} := ⟨doublesIn_nil, doublesIn_nil⟩
  have hclosed := (hstart.lines? hlines).close hclose
  exact .table (doubles_finishEntries _ hclosed.root)

end DocSite.Toml
