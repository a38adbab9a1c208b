import DocSite.Table

/-!
# Tables and their entries

  A table is determined by its entries: an entry is what its name looks up, a list
  of entries without repeated names is the table made of it, and tables with the
  same entries in any order are the same.
-/

namespace DocSite

namespace Table

variable {α : Type}

/-- A new name goes to the end. -/
theorem put_of_not_mem {key : String} {entries : List (String × α)}
    (h : key ∉ entries.map Prod.fst) (value : α) :
    put key value entries = entries ++ [(key, value)] := by
  induction entries with
  | nil => rfl
  | cons e rest ih =>
    obtain ⟨k, v⟩ := e
    have hk : k ≠ key := fun he => h (by simp [he])
    have hrest : key ∉ rest.map Prod.fst := fun hm => h (by
      rw [List.map_cons]
      exact List.mem_cons_of_mem _ hm)
    rw [put, if_neg hk, ih hrest, List.cons_append]

theorem entries_foldl_insert (entries : List (String × α)) (t : Table α)
    (h : ((t.entries ++ entries).map Prod.fst).Nodup) :
    (entries.foldl (fun t (k, v) => t.insert k v) t).entries = t.entries ++ entries := by
  induction entries generalizing t with
  | nil => simp
  | cons e rest ih =>
    obtain ⟨k, v⟩ := e
    have hnew : k ∉ t.entries.map Prod.fst := by
      intro hk
      rw [List.map_append, List.nodup_append] at h
      exact h.2.2 k hk k (by simp) rfl
    have hput : (t.insert k v).entries = t.entries ++ [(k, v)] := put_of_not_mem hnew v
    rw [List.foldl_cons, ih (t.insert k v) (by simpa [hput] using h), hput]
    simp

/-- A table of entries without repeated names has just these entries. -/
theorem entries_ofList {entries : List (String × α)} (h : (entries.map Prod.fst).Nodup) :
    (ofList entries).entries = entries := by
  have := entries_foldl_insert entries empty (by simpa [empty] using h)
  simpa [ofList, empty] using this

theorem ext_entries {t u : Table α} (h : t.entries = u.entries) : t = u := by
  cases t
  cases u
  simpa using h

/-- An entry of a table is what its name looks up. -/
theorem lookup_of_mem {entries : List (String × α)} (hnodup : (entries.map Prod.fst).Nodup)
    {key : String} {value : α} (h : (key, value) ∈ entries) :
    lookup key entries = some value := by
  induction entries with
  | nil => simp at h
  | cons e rest ih =>
    obtain ⟨k, v⟩ := e
    rw [List.map_cons, List.nodup_cons] at hnodup
    rcases List.mem_cons.1 h with he | h
    · obtain ⟨rfl, rfl⟩ := Prod.mk.inj he
      simp [lookup]
    · have hk : k ≠ key := by
        rintro rfl
        exact hnodup.1 (List.mem_map.2 ⟨(k, value), h, rfl⟩)
      rw [lookup, if_neg hk, ih hnodup.2 h]

/-- What a name looks up is one of the entries. -/
theorem mem_of_lookup {entries : List (String × α)} {key : String} {value : α}
    (h : lookup key entries = some value) : (key, value) ∈ entries := by
  induction entries with
  | nil => simp [lookup] at h
  | cons e rest ih =>
    obtain ⟨k, v⟩ := e
    rw [lookup] at h
    split at h
    · rename_i hk
      rw [hk, Option.some.inj h]
      exact List.mem_cons_self
    · exact List.mem_cons_of_mem _ (ih h)

/-- A name has its value in the first part of the entries, or else in the second one. -/
theorem lookup_append (key : String) (entries entries' : List (String × α)) :
    lookup key (entries ++ entries') = (lookup key entries).or (lookup key entries') := by
  induction entries with
  | nil => rfl
  | cons e rest ih =>
    obtain ⟨k, v⟩ := e
    rw [List.cons_append, lookup, lookup]
    by_cases hk : k = key
    · rw [if_pos hk, if_pos hk, Option.some_or]
    · rw [if_neg hk, if_neg hk, ih]

/-- Taking one name away leaves the values of the others. -/
theorem lookup_filter_ne {name key : String} (hne : key ≠ name) (entries : List (String × α)) :
    lookup key (entries.filter fun e => e.1 != name) = lookup key entries := by
  induction entries with
  | nil => rfl
  | cons e rest ih =>
    obtain ⟨k, v⟩ := e
    by_cases hk : k = name
    · have hother : k ≠ key := fun h => hne (h.symm.trans hk)
      rw [List.filter_cons_of_neg (by simp [hk]), ih, lookup, if_neg hother]
    · rw [List.filter_cons_of_pos (by simp [hk]), lookup, lookup, ih]

/-- A value that is given to a name is what the name looks up; other names keep theirs. -/
theorem lookup_put (name key : String) (value : α) (entries : List (String × α)) :
    lookup key (put name value entries) = if name = key then some value else lookup key entries := by
  induction entries with
  | nil => rfl
  | cons e rest ih =>
    obtain ⟨k, v⟩ := e
    by_cases hk : k = name
    · rw [put, if_pos hk, lookup, lookup, hk]
      by_cases hkey : name = key
      · rw [if_pos hkey, if_pos hkey]
      · rw [if_neg hkey, if_neg hkey, if_neg hkey]
    · rw [put, if_neg hk, lookup, lookup, ih]
      by_cases hkey : k = key
      · have hother : name ≠ key := fun h => hk (hkey.trans h.symm)
        rw [if_pos hkey, if_neg hother, if_pos hkey]
      · rw [if_neg hkey, if_neg hkey]

theorem get?_eq_some_iff (t : Table α) {key : String} {value : α} :
    t.get? key = some value ↔ (key, value) ∈ t.entries :=
  ⟨mem_of_lookup, lookup_of_mem t.nodup⟩

/-- Tables with the same entries in any order are the same. -/
theorem sameAs_of_perm [BEq α] [LawfulBEq α] {t u : Table α} (h : t.entries.Perm u.entries) :
    t.sameAs u = true := by
  have hsize : t.size = u.size := h.length_eq
  simp only [sameAs, hsize, beq_self_eq_true, Bool.true_and, List.all_eq_true]
  rintro ⟨k, v⟩ he
  have hget : u.get? k = some v := lookup_of_mem u.nodup (h.mem_iff.1 he)
  simp [hget]

/-! ## Names that are given a value once -/

theorem insertNew_of_mem {t : Table α} {key : String} (h : key ∈ t.keys) (value : α) :
    t.insertNew key value = t := by
  rw [insertNew, if_pos ((t.contains_iff key).2 h)]

/-- A new name is inserted at the end. -/
theorem entries_insertNew {t : Table α} {key : String} (h : key ∉ t.keys) (value : α) :
    (t.insertNew key value).entries = t.entries ++ [(key, value)] := by
  have hcontains : ¬ t.contains key = true := fun hc => h ((t.contains_iff key).1 hc)
  rw [insertNew, if_neg hcontains]
  exact put_of_not_mem h value

/-- Taking one more name away. -/
theorem removeAll_append_singleton (names taken : List String) (key : String) :
    names.removeAll (taken ++ [key]) = (names.removeAll taken).filter fun k => !k == key := by
  simp only [List.removeAll, List.filter_filter]
  congr 1
  funext k
  by_cases hk : k = key <;> simp [hk]

/-- Names that are added one after the other, unless they are there, are listed in the order of
their first occurrences, behind those that were there. -/
theorem keys_foldl {step : Table α → String × α → Table α}
    (hstep : ∀ t e, (step t e).keys = if e.1 ∈ t.keys then t.keys else t.keys ++ [e.1])
    (entries : List (String × α)) (t : Table α) :
    (entries.foldl step t).keys =
      t.keys ++ ((entries.map Prod.fst).removeAll t.keys).eraseDups := by
  induction entries generalizing t with
  | nil => simp [List.removeAll]
  | cons e rest ih =>
    rw [List.foldl_cons, List.map_cons, List.cons_removeAll, ih (step t e), hstep]
    by_cases h : e.1 ∈ t.keys
    · rw [if_pos h, if_neg (by simpa using h)]
    · rw [if_neg h, if_pos (by simpa using h), List.eraseDups_cons, removeAll_append_singleton,
        List.append_assoc, List.singleton_append]

theorem keys_insert (t : Table α) (key : String) (value : α) :
    (t.insert key value).keys = if key ∈ t.keys then t.keys else t.keys ++ [key] :=
  keys_put key value t.entries

theorem keys_insertNew (t : Table α) (key : String) (value : α) :
    (t.insertNew key value).keys = if key ∈ t.keys then t.keys else t.keys ++ [key] := by
  by_cases h : key ∈ t.keys
  · rw [insertNew_of_mem h, if_pos h]
  · rw [if_neg h, keys, entries_insertNew h, List.map_append]
    rfl

theorem keys_foldl_insertNew (entries : List (String × α)) (t : Table α) :
    (entries.foldl (fun t (key, value) => t.insertNew key value) t).keys =
      t.keys ++ ((entries.map Prod.fst).removeAll t.keys).eraseDups :=
  keys_foldl (fun t e => t.keys_insertNew e.1 e.2) entries t

/-- The first value that a name is given stays. -/
theorem get?_foldl_insertNew (entries : List (String × α)) (t : Table α) (name : String) :
    (entries.foldl (fun t (key, value) => t.insertNew key value) t).get? name =
      (t.get? name).or (lookup name entries) := by
  induction entries generalizing t with
  | nil => simp [lookup]
  | cons e rest ih =>
    obtain ⟨key, value⟩ := e
    rw [List.foldl_cons, ih (t.insertNew key value)]
    -- A name that is there keeps its value; another one goes behind the names so far.
    by_cases h : key ∈ t.keys
    · rw [insertNew_of_mem h, lookup]
      by_cases hname : key = name
      · subst hname
        obtain ⟨found, hfound⟩ := Option.isSome_iff_exists.1 ((t.contains_iff key).2 h)
        rw [hfound, Option.some_or, Option.some_or]
      · rw [if_neg hname]
    · have hget : (t.insertNew key value).get? name =
          (t.get? name).or (lookup name [(key, value)]) := by
        rw [get?, entries_insertNew h, lookup_append]
        rfl
      rw [hget, Option.or_assoc, ← lookup_append]
      rfl

/-! ## Names that are given a value again -/

/-- The table of a list has its names in the order of their first occurrences. -/
theorem keys_ofList (entries : List (String × α)) :
    (ofList entries).keys = (entries.map Prod.fst).eraseDups := by
  rw [ofList, keys_foldl fun t e => t.keys_insert e.1 e.2]
  have hall : (entries.map Prod.fst).removeAll [] = entries.map Prod.fst :=
    List.filter_eq_self.2 fun _ _ => rfl
  exact congrArg List.eraseDups hall

/-- The last value that a name is given is the one that it has. -/
theorem get?_foldl_insert (entries : List (String × α)) (t : Table α) (name : String) :
    (entries.foldl (fun t (key, value) => t.insert key value) t).get? name =
      (lookup name entries.reverse).or (t.get? name) := by
  induction entries generalizing t with
  | nil => rfl
  | cons e rest ih =>
    obtain ⟨key, value⟩ := e
    have hget : (t.insert key value).get? name =
        (lookup name [(key, value)]).or (t.get? name) := by
      rw [get?, insert, lookup_put, lookup]
      split <;> rfl
    rw [List.foldl_cons, ih (t.insert key value), hget, List.reverse_cons, lookup_append,
      Option.or_assoc]

theorem get?_ofList (entries : List (String × α)) (name : String) :
    (ofList entries).get? name = lookup name entries.reverse := by
  rw [ofList, get?_foldl_insert]
  exact Option.or_none

/-- Lists of entries with the same names in the same order are equal if no name has one value in
the first and another in the second. -/
theorem entries_ext {entries entries' : List (String × α)}
    (hkeys : entries.map Prod.fst = entries'.map Prod.fst)
    (hvalues : ∀ key value value', (key, value) ∈ entries → (key, value') ∈ entries' →
      value = value') : entries = entries' := by
  apply List.ext_getElem
  · simpa using congrArg List.length hkeys
  · intro i hi hi'
    have hkey : entries[i].1 = entries'[i].1 := by
      have := List.getElem_of_eq hkeys (by simpa using hi)
      simpa using this
    refine Prod.ext hkey (hvalues entries[i].1 _ _ (List.getElem_mem hi) ?_)
    rw [hkey]
    exact List.getElem_mem hi'

theorem lookup_map {β : Type} (f : α → β) (key : String) (entries : List (String × α)) :
    lookup key (entries.map fun (k, v) => (k, f v)) = (lookup key entries).map f := by
  induction entries with
  | nil => rfl
  | cons e rest ih =>
    obtain ⟨k, v⟩ := e
    rw [List.map_cons, lookup, lookup, ih]
    by_cases hk : k = key
    · rw [if_pos hk, if_pos hk, Option.map_some]
    · rw [if_neg hk, if_neg hk]

end Table

end DocSite
