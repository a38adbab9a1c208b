import DocSite.Json.CamelCase
import DocSite.Proofs.Table
import Mathlib

/-!
# Keys in camel case are a normal form

  A name in camel case has no underscore, since no capital letter is one, and a
  name without underscores is in camel case already. So renaming the keys of a
  value a second time changes nothing. What the first renaming does is said by a
  relation between values: scalars stay, arrays keep their lengths, and an object
  keeps the place of the first and the value of the last of the keys that become
  equal.
-/

namespace DocSite

open DocSite.Text

/-! ## Names -/

/-- No run of letters is moved to the underscore. -/
theorem ofNat_shift_ne {r : CaseRun} (hr : r ∈ upperRuns) {n : Nat} (hn : r.holds n = true) :
    Char.ofNat ((n : Int) + r.shift).toNat ≠ '_' := by
  have hruns : ∀ r ∈ upperRuns,
      ¬ ((r.first : Int) + r.shift ≤ 0x5f ∧ 0x5f ≤ r.last + r.shift) := by decide +kernel
  have hrun := hruns r hr
  simp only [CaseRun.holds, Bool.and_eq_true, decide_eq_true_eq] at hn
  intro he
  have hcode := Char.toNat_ofNat ((n : Int) + r.shift).toNat
  rw [he] at hcode
  change 0x5f = _ at hcode
  split at hcode
  · omega
  · omega

/-- No capital letter is an underscore. -/
theorem not_mem_upper {c : Char} (h : c ≠ '_') : '_' ∉ upper c := by
  -- ASCII is gone through as a whole, and so are the two tables for what is above it.
  have hascii : ∀ n < 0x80, n ≠ 0x5f → '_' ≠ (Char.ofNat n).toUpper := by decide
  have hexpansions : ∀ e ∈ upperExpansions, '_' ∉ e.2.map Char.ofNat := by decide +kernel
  rw [upper]
  by_cases hlow : c.toNat < 0x80
  · have hcode : c.toNat ≠ 0x5f := fun he => h (Char.ext (UInt32.toNat_inj.1 he))
    have hchar := hascii c.toNat hlow hcode
    rw [Char.ofNat_toNat] at hchar
    rw [if_pos hlow, List.mem_singleton]
    exact hchar
  · rw [if_neg hlow]
    cases hlookup : upperExpansions.lookup c.toNat with
    | some codes =>
      obtain ⟨front, back, hmem, -⟩ := List.lookup_eq_some_iff.1 hlookup
      exact hexpansions (c.toNat, codes) (by simp [hmem])
    | none =>
      cases hfind : upperRuns.find? (·.holds c.toNat) with
      | some r =>
        have hholds := List.find?_some hfind
        have hne := ofNat_shift_ne (List.mem_of_find?_eq_some hfind) hholds
        exact fun hmem => hne (List.mem_singleton.1 hmem).symm
      | none => exact fun hmem => h (List.mem_singleton.1 hmem).symm

theorem not_mem_camelChars (started raise : Bool) (cs : List Char) :
    '_' ∉ camelChars started raise cs := by
  induction cs generalizing started raise with
  | nil => exact List.not_mem_nil
  | cons c cs ih =>
    rw [camelChars]
    by_cases hc : (c == '_') = true
    · rw [if_pos hc]
      exact ih started started
    · have hne : c ≠ '_' := by simpa using hc
      rw [if_neg hc]
      cases raise with
      | true =>
        rw [if_pos rfl, List.mem_append, not_or]
        exact ⟨not_mem_upper hne, ih true false⟩
      | false =>
        rw [if_neg Bool.false_ne_true, List.mem_cons, not_or]
        exact ⟨hne.symm, ih true false⟩

theorem camelChars_of_not_mem {started : Bool} {cs : List Char} (h : '_' ∉ cs) :
    camelChars started false cs = cs := by
  induction cs generalizing started with
  | nil => rfl
  | cons c cs ih =>
    rw [List.mem_cons, not_or] at h
    have hc : ¬ (c == '_') = true := by simpa using Ne.symm h.1
    rw [camelChars, if_neg hc, if_neg Bool.false_ne_true, ih h.2]

theorem not_mem_camelCase (name : String) : '_' ∉ (camelCase name).toList := by
  rw [camelCase, String.toList_ofList]
  exact not_mem_camelChars false false name.toList

/-- A name without underscores is in camel case. -/
theorem camelCase_of_not_mem {name : String} (h : '_' ∉ name.toList) : camelCase name = name := by
  rw [camelCase, camelChars_of_not_mem h, String.ofList_toList]

namespace Json

/-! ## Values -/

/-- Whether a value has no values inside. -/
def IsScalar : Json → Prop
  | .array _ => False
  | .object _ => False
  | _ => True

/-- What holds of scalars, and of arrays and objects if it holds of the values inside, holds of
all values. -/
@[elab_as_elim]
theorem recursion {motive : Json → Prop} (scalar : ∀ v, v.IsScalar → motive v)
    (array : ∀ items, (∀ v ∈ items, motive v) → motive (.array items))
    (object : ∀ members, (∀ m ∈ members, motive m.2) → motive (.object members)) :
    ∀ v, motive v
  | .array items => array items fun v _ => recursion scalar array object v
  | .object members => object members fun m _ => recursion scalar array object m.2
  | .null => scalar _ trivial
  | .bool _ => scalar _ trivial
  | .integer _ => scalar _ trivial
  | .number _ => scalar _ trivial
  | .string _ => scalar _ trivial
termination_by v => sizeOf v
decreasing_by
  · have := List.sizeOf_lt_of_mem ‹v ∈ items›
    simp only [Json.array.sizeOf_spec]
    omega
  · have := List.sizeOf_lt_of_mem ‹m ∈ members›
    have : sizeOf m = 1 + sizeOf m.1 + sizeOf m.2 := by cases m; rfl
    simp only [Json.object.sizeOf_spec]
    omega

/-- A key stands in a value, at some depth. -/
inductive HasKey (key : String) : Json → Prop
  | here {members value} : (key, value) ∈ members → HasKey key (.object members)
  | member {members name value} : (name, value) ∈ members → HasKey key value →
      HasKey key (.object members)
  | item {items value} : value ∈ items → HasKey key value → HasKey key (.array items)

/-! ## Renaming -/

/-- A member with its key in camel case, and the keys of its value too. -/
def renameMember (m : String × Json) : String × Json := (camelCase m.1, m.2.camelKeys)

theorem camelKeys_of_isScalar {v : Json} (h : v.IsScalar) : v.camelKeys = v := by
  cases v with
  | array items => cases h
  | object members => cases h
  | _ => rfl

theorem camelKeys_array (items : List Json) :
    (array items).camelKeys = .array (items.map camelKeys) := by
  rw [camelKeys]
  congr 1
  induction items with
  | nil => rfl
  | cons v rest ih => rw [camelItems, ih, List.map_cons]

/-- The members of a renamed object are a table of the renamed members. -/
theorem camelKeys_object (members : List (String × Json)) :
    (object members).camelKeys = .object (Table.ofList (members.map renameMember)).entries := by
  have hfrom (done : Table Json) : camelMembers done.entries members =
      ((members.map renameMember).foldl (fun t (key, value) => t.insert key value) done).entries := by
    induction members generalizing done with
    | nil => rfl
    | cons m rest ih =>
      obtain ⟨key, value⟩ := m
      rw [camelMembers, List.map_cons, List.foldl_cons]
      exact ih (done.insert (camelCase key) value.camelKeys)
  rw [camelKeys]
  exact congrArg Json.object (hfrom .empty)

/-! ## The normal form -/

/-- Values whose keys have no underscores, and whose objects have no key twice. -/
inductive IsCamel : Json → Prop
  | scalar {v} : v.IsScalar → IsCamel v
  | array {items} : (∀ v ∈ items, IsCamel v) → IsCamel (.array items)
  | object {members} : (members.map Prod.fst).Nodup → (∀ m ∈ members, '_' ∉ m.1.toList) →
      (∀ m ∈ members, IsCamel m.2) → IsCamel (.object members)

theorem IsCamel.not_mem_of_hasKey {v : Json} (h : v.IsCamel) {key : String} (hkey : HasKey key v) :
    '_' ∉ key.toList := by
  induction hkey with
  | here hmem =>
    cases h with
    | scalar h => cases h
    | object _ hkeys _ => exact hkeys _ hmem
  | member hmem _ ih =>
    cases h with
    | scalar h => cases h
    | object _ _ hvalues => exact ih (hvalues _ hmem)
  | item hmem _ ih =>
    cases h with
    | scalar h => cases h
    | array hitems => exact ih (hitems _ hmem)

/-- The entries of a table made of a list stand in the list. -/
theorem mem_of_mem_ofList {α : Type} {entries : List (String × α)} {e : String × α}
    (h : e ∈ (Table.ofList entries).entries) : e ∈ entries := by
  obtain ⟨key, value⟩ := e
  have hget := (Table.get?_eq_some_iff _).2 h
  rw [Table.get?_ofList] at hget
  exact List.mem_reverse.1 (Table.mem_of_lookup hget)

theorem isCamel_camelKeys (v : Json) : v.camelKeys.IsCamel := by
  induction v using recursion with
  | scalar v h =>
    rw [camelKeys_of_isScalar h]
    exact .scalar h
  | array items ih =>
    rw [camelKeys_array]
    exact .array (List.forall_mem_map.2 ih)
  | object members ih =>
    rw [camelKeys_object]
    refine .object (Table.ofList _).nodup ?_ ?_
    · intro e he
      obtain ⟨m, -, rfl⟩ := List.mem_map.1 (mem_of_mem_ofList he)
      exact not_mem_camelCase m.1
    · intro e he
      obtain ⟨m, hm, rfl⟩ := List.mem_map.1 (mem_of_mem_ofList he)
      exact ih m hm

theorem IsCamel.camelKeys_eq {v : Json} (h : v.IsCamel) : v.camelKeys = v := by
  induction h with
  | scalar h => exact camelKeys_of_isScalar h
  | array _ ih => rw [camelKeys_array, List.map_congr_left ih, List.map_id']
  | @object members hnodup hkeys _ ih =>
    have hrename : ∀ m ∈ members, renameMember m = m := fun m hm =>
      Prod.ext (camelCase_of_not_mem (hkeys m hm)) (ih m hm)
    rw [camelKeys_object, List.map_congr_left hrename, List.map_id', Table.entries_ofList hnodup]

/-! ## What renaming does -/

/-- The second value is the first one with its keys renamed. Of the members of an object whose
keys become equal the place of the first is kept, and the value of the last. -/
inductive Renamed : Json → Json → Prop
  | scalar {v} : v.IsScalar → Renamed v v
  | array {items items' : List Json} : items'.length = items.length →
      (∀ (i : Nat) v v', items[i]? = some v → items'[i]? = some v' → Renamed v v') →
      Renamed (.array items) (.array items')
  | object {members members' : List (String × Json)} :
      members'.map Prod.fst = (members.map fun m => camelCase m.1).eraseDups →
      (∀ front key value back value', members = front ++ (key, value) :: back →
        (∀ m ∈ back, camelCase m.1 ≠ camelCase key) →
        (camelCase key, value') ∈ members' → Renamed value value') →
      Renamed (.object members) (.object members')

/-- The names of a renamed object are its keys in camel case, each at its first place. -/
theorem keys_renamed (members : List (String × Json)) :
    (Table.ofList (members.map renameMember)).entries.map Prod.fst =
      (members.map fun m => camelCase m.1).eraseDups := by
  have hkeys := Table.keys_ofList (members.map renameMember)
  rwa [List.map_map] at hkeys

/-- The last of the members whose keys become equal gives the value. -/
theorem get?_renamed {members front back : List (String × Json)} {key : String} {value : Json}
    (hmembers : members = front ++ (key, value) :: back)
    (hlast : ∀ m ∈ back, camelCase m.1 ≠ camelCase key) :
    (Table.ofList (members.map renameMember)).get? (camelCase key) = some value.camelKeys := by
  have hbehind : Table.lookup (camelCase key) (back.map renameMember).reverse = none := by
    rw [Table.lookup_eq_none_iff]
    simpa [renameMember] using hlast
  rw [Table.get?_ofList, hmembers, List.map_append, List.map_cons, List.reverse_append,
    List.reverse_cons, List.append_assoc, Table.lookup_append, hbehind, Option.none_or]
  exact if_pos rfl

/-- Every name has a last member that is renamed to it. -/
theorem exists_last {name : String} {members : List (String × Json)}
    (h : name ∈ members.map fun m => camelCase m.1) :
    ∃ front key value back, members = front ++ (key, value) :: back ∧ camelCase key = name ∧
      ∀ m ∈ back, camelCase m.1 ≠ name := by
  induction members using List.reverseRecOn with
  | nil => cases h
  | append_singleton members m ih =>
    by_cases hm : camelCase m.1 = name
    · exact ⟨members, m.1, m.2, [], rfl, hm, by simp⟩
    · have hfront : name ∈ members.map fun m => camelCase m.1 := by
        simpa [Ne.symm hm] using h
      obtain ⟨front, key, value, back, rfl, hkey, hback⟩ := ih hfront
      refine ⟨front, key, value, back ++ [m], by simp, hkey, ?_⟩
      intro m' hm'
      rcases List.mem_append.1 hm' with hm' | hm'
      · exact hback m' hm'
      · obtain rfl := List.mem_singleton.1 hm'
        exact hm

theorem renamed_camelKeys (v : Json) : Renamed v v.camelKeys := by
  induction v using recursion with
  | scalar v h =>
    rw [camelKeys_of_isScalar h]
    exact .scalar h
  | array items ih =>
    rw [camelKeys_array]
    refine .array (List.length_map _) ?_
    intro i v v' hv hv'
    rw [List.getElem?_map, hv] at hv'
    obtain rfl := Option.some.inj hv'
    exact ih v (List.mem_of_getElem? hv)
  | object members ih =>
    rw [camelKeys_object]
    refine .object (keys_renamed members) ?_
    -- Of all members with the name, the last one gives the value.
    intro front key value back value' hmembers hlast hmem
    have hget := (Table.get?_eq_some_iff _).2 hmem
    rw [get?_renamed hmembers hlast] at hget
    obtain rfl := Option.some.inj hget
    exact ih (key, value) (by simp [hmembers])

/-- There is one way to rename the keys of a value. -/
theorem Renamed.eq_camelKeys {v w : Json} (h : Renamed v w) : w = v.camelKeys := by
  induction h with
  | scalar h => exact (camelKeys_of_isScalar h).symm
  | @array items items' hlength _ ih =>
    rw [camelKeys_array]
    congr 1
    apply List.ext_getElem
    · rw [hlength, List.length_map]
    · intro i hi hi'
      have hitem : i < items.length := hlength ▸ hi
      rw [List.getElem_map]
      exact ih i _ _ (List.getElem?_eq_getElem hitem) (List.getElem?_eq_getElem hi)
  | @object members members' hkeys _ ih =>
    rw [camelKeys_object]
    congr 1
    apply Table.entries_ext (hkeys.trans (keys_renamed members).symm)
    intro name value' value'' hmem hmem'
    have hname : name ∈ members.map fun m => camelCase m.1 := by
      rw [← List.mem_eraseDups, ← hkeys]
      exact List.mem_map_of_mem hmem
    -- The key comes from some members, and the last of these gives both values.
    obtain ⟨front, key, value, back, hmembers, rfl, hlast⟩ := exists_last hname
    have hget := (Table.get?_eq_some_iff _).2 hmem'
    rw [get?_renamed hmembers hlast] at hget
    exact (ih front key value back value' hmembers hlast hmem).trans (Option.some.inj hget)

/-- Renamed keys have no underscores, renaming them again changes nothing, and what is renamed is
determined by where the keys stand and which of them come last. -/
theorem camelKeys_normal (v : Json) :
    (∀ key, HasKey key v.camelKeys → '_' ∉ key.toList) ∧ v.camelKeys.camelKeys = v.camelKeys ∧
      ∀ w, Renamed v w ↔ w = v.camelKeys := by
  have hcamel := isCamel_camelKeys v
  refine ⟨fun key => hcamel.not_mem_of_hasKey, hcamel.camelKeys_eq, fun w => ?_⟩
  constructor
  · exact Renamed.eq_camelKeys
  · rintro rfl
    exact renamed_camelKeys v

/-- Two keys of an object become equal, one of them by a capital letter of two characters. -/
theorem camelKeys_normal_merged :
    Renamed
      (.object [("a_ß", .integer 1), ("b", .array [.object [("_c_d", .null)]]),
        ("a__SS", .integer 2)])
      (.object [("aSS", .integer 2), ("b", .array [.object [("cD", .null)]])]) :=
  ((camelKeys_normal _).2.2 _).2 rfl

end Json

end DocSite
