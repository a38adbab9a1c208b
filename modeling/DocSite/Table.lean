/-!
# Tables

  A table maps names to values and remembers the order in which the names were
  first added. No name occurs twice: the invariant is part of the type, so that
  looking a name up and reading the list of entries always agree.
-/

namespace DocSite

/-- Named values in the order of their first insertion, without repeated names. -/
structure Table (α : Type) where
  entries : List (String × α)
  nodup : (entries.map Prod.fst).Nodup := by simp

namespace Table

variable {α β : Type}

/-! ## Reading -/

/-- The table without entries. -/
def empty : Table α := ⟨[], by simp⟩

instance : Inhabited (Table α) := ⟨empty⟩

/-- The names, in order. -/
def keys (t : Table α) : List String := t.entries.map Prod.fst

/-- The values, in order. -/
def values (t : Table α) : List α := t.entries.map Prod.snd

/-- The value of a name in a list of entries: that of its first occurrence. -/
def lookup (key : String) : List (String × α) → Option α
  | [] => none
  | (k, v) :: rest => if k = key then some v else lookup key rest

/-- The value of a name. -/
def get? (t : Table α) (key : String) : Option α := lookup key t.entries

/-- Whether a name has a value. -/
def contains (t : Table α) (key : String) : Bool := (t.get? key).isSome

/-- Whether there are no entries. -/
def isEmpty (t : Table α) : Bool := t.entries.isEmpty

/-- The number of entries. -/
def size (t : Table α) : Nat := t.entries.length

theorem lookup_eq_none_iff (key : String) (entries : List (String × α)) :
    lookup key entries = none ↔ key ∉ entries.map Prod.fst := by
  induction entries with
  | nil => simp [lookup]
  | cons e rest ih =>
    obtain ⟨k, v⟩ := e
    by_cases h : k = key
    · simp [lookup, h]
    · have h' : key ≠ k := fun e => h e.symm
      simp only [lookup, h, if_false, ih, List.map_cons, List.mem_cons, h', false_or]

/-- A name stands in the list of names exactly when it has a value. -/
theorem contains_iff (t : Table α) (key : String) : t.contains key = true ↔ key ∈ t.keys := by
  have h := lookup_eq_none_iff key t.entries
  unfold contains get? keys
  cases hl : lookup key t.entries with
  | none => simp [h.1 hl]
  | some v =>
    simp only [Option.isSome_some, true_iff]
    exact Classical.byContradiction fun hn => by simp [h.2 hn] at hl

/-! ## Writing -/

/-- Gives a name a value: in its place if the name is known, else at the end. -/
def put (key : String) (value : α) : List (String × α) → List (String × α)
  | [] => [(key, value)]
  | (k, v) :: rest => if k = key then (k, value) :: rest else (k, v) :: put key value rest

theorem keys_put (key : String) (value : α) (entries : List (String × α)) :
    (put key value entries).map Prod.fst =
      if key ∈ entries.map Prod.fst then entries.map Prod.fst
      else entries.map Prod.fst ++ [key] := by
  induction entries with
  | nil => simp [put]
  | cons e rest ih =>
    obtain ⟨k, v⟩ := e
    by_cases h : k = key
    · simp [put, h]
    · simp only [put, h, if_false, List.map_cons, ih, List.mem_cons]
      split <;> rename_i hm <;> simp_all [eq_comm]

theorem nodup_put (key : String) (value : α) {entries : List (String × α)}
    (h : (entries.map Prod.fst).Nodup) : ((put key value entries).map Prod.fst).Nodup := by
  rw [keys_put]
  split
  · exact h
  · rename_i hm
    exact List.nodup_append.2 ⟨h, by simp, by
      intro a ha b hb
      simp only [List.mem_singleton] at hb
      subst hb
      exact fun he => hm (he ▸ ha)⟩

/-- Gives a name a value: in its place if the name is known, else at the end. -/
def insert (t : Table α) (key : String) (value : α) : Table α :=
  ⟨put key value t.entries, nodup_put key value t.nodup⟩

/-- Gives a name a value unless it has one. -/
def insertNew (t : Table α) (key : String) (value : α) : Table α :=
  if t.contains key then t else t.insert key value

/-- The table of a list of entries: a later value of a name replaces an earlier one. -/
def ofList (entries : List (String × α)) : Table α :=
  entries.foldl (fun t (k, v) => t.insert k v) empty

/-- The same names with other values. -/
def map (f : α → β) (t : Table α) : Table β :=
  ⟨t.entries.map fun (k, v) => (k, f v), by
    have h : (t.entries.map fun (k, v) => (k, f v)).map Prod.fst = t.entries.map Prod.fst := by
      simp [List.map_map, Function.comp_def]
    rw [h]; exact t.nodup⟩

/-- Equality of two tables that disregards order. -/
def sameAs [BEq α] (t u : Table α) : Bool :=
  t.size == u.size && t.entries.all fun (k, v) => u.get? k == some v

end Table

end DocSite
