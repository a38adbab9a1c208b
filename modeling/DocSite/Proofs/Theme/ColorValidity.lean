import DocSite.Proofs.Diagnostics
import DocSite.Proofs.Table
import DocSite.Proofs.Text
import DocSite.Theme.Color

/-!
# Color tables that pass their check

  A table of color tokens is valid when its names follow their grammars, its groups
  have the variants they need, its values are colors, and no flat name comes from
  two places. The check reports no error for exactly these tables.
-/

namespace DocSite

open DocSite.Text

/-- A token whose own name and keys are as they should be. -/
def ColorToken.Fits (name : String) : ColorToken → Prop
  | .single _ => isTokenName name = true
  | .group g => isTokenName name = true ∧ g.default.isSome = true ∧ g.foreground.isSome = true ∧
      ∀ key ∈ g.shades.keys, isShadeName key = true

/-- A value that is a color. -/
def Color.IsColor (value : String) : Prop := (Color.kind? value).isSome = true

namespace ColorTokens

/-- A table that passes its check. -/
structure Valid (colors : ColorTokens) : Prop where
  fits : ∀ e ∈ colors.tokens.entries, e.2.Fits e.1
  isColor : ∀ e ∈ colors.flatten, Color.IsColor e.2
  nodup : (colors.flatten.map Prod.fst).Nodup

/-! ## One token -/

theorem kind_eq_ok_iff {value : String} :
    (∃ k, Color.kind value = .ok k) ↔ Color.IsColor value := by
  unfold Color.kind Color.IsColor
  cases Color.kind? value <;> simp

/-- A blank value is no color. -/
theorem not_isColor_of_blank {value : String} (h : (trim value).isEmpty = true) :
    ¬ Color.IsColor value := by
  have hnil : trimBoth value.toList = [] := by simpa [trim] using h
  have hkind : Color.kind? value = none := by
    simp only [Color.kind?, hnil]
    decide
  simp [Color.IsColor, hkind]

/-- A needed variant passes when it is there and not blank. -/
theorem checkNeeded_errors_iff (field : FieldPath) (key : String) (value : Option String) :
    (checkNeeded field key value).errors = [] ↔
      ∃ v, value = some v ∧ (trim v).isEmpty = false := by
  cases value with
  | none => simp [checkNeeded]
  | some v => simp [checkNeeded]

/-! ## Colors in a row -/

/-- The flat names that were seen, and those of the row, are the ones seen after it. -/
theorem mem_seen_checkColors (seen : List (String × FieldPath))
    (row : List (String × FieldPath × String)) (name : String) :
    name ∈ (checkColors seen row).2.map Prod.fst ↔
      name ∈ seen.map Prod.fst ∨ name ∈ row.map Prod.fst := by
  induction row generalizing seen with
  | nil => simp [checkColors]
  | cons e rest ih =>
    obtain ⟨flat, place, value⟩ := e
    rw [checkColors]
    -- A name that was seen is reported and not added again.
    cases hfirst : Table.lookup flat seen with
    | some first =>
      have hmem : flat ∈ seen.map Prod.fst :=
        List.mem_map.2 ⟨_, Table.mem_of_lookup hfirst, rfl⟩
      simp only [ih, List.map_cons, List.mem_cons]
      constructor
      · rintro (h | h)
        · exact .inl h
        · exact .inr (.inr h)
      · rintro (h | rfl | h)
        · exact .inl h
        · exact .inl hmem
        · exact .inr h
    | none =>
      simp only [ih, List.map_append, List.map_cons, List.map_nil, List.mem_append,
        List.mem_cons, List.not_mem_nil, or_false, or_assoc]

/-- A row passes when its values are colors and its flat names are new, each of them once. -/
theorem checkColors_errors_iff (seen : List (String × FieldPath))
    (row : List (String × FieldPath × String)) :
    (checkColors seen row).1.errors = [] ↔
      (∀ e ∈ row, Color.IsColor e.2.2) ∧ (row.map Prod.fst).Nodup ∧
        ∀ name ∈ row.map Prod.fst, name ∉ seen.map Prod.fst := by
  induction row generalizing seen with
  | nil => simp [checkColors]
  | cons e rest ih =>
    obtain ⟨flat, place, value⟩ := e
    -- A taken name is an error whatever its value is, so both sides fail.
    cases hfirst : Table.lookup flat seen with
    | some first =>
      have hmem : flat ∈ seen.map Prod.fst :=
        List.mem_map.2 ⟨_, Table.mem_of_lookup hfirst, rfl⟩
      constructor
      · intro h
        simp [checkColors, hfirst] at h
      · rintro ⟨-, -, hnew⟩
        exact absurd hmem (hnew flat (by simp))
    | none =>
      have hnew : flat ∉ seen.map Prod.fst := (Table.lookup_eq_none_iff flat seen).1 hfirst
      have hstep : (checkColors seen ((flat, place, value) :: rest)).1.errors = [] ↔
          Color.IsColor value ∧ (checkColors (seen ++ [(flat, place)]) rest).1.errors = [] := by
        rw [checkColors, hfirst, ← kind_eq_ok_iff]
        cases Color.kind value <;> simp
      rw [hstep, ih, List.map_cons, List.forall_mem_cons, List.forall_mem_cons, List.nodup_cons]
      simp only [List.map_append, List.map_cons, List.map_nil, List.mem_append, List.mem_cons,
        List.not_mem_nil, or_false, not_or]
      constructor
      · rintro ⟨hvalue, hvalues, hnodup, hrest⟩
        exact ⟨⟨hvalue, hvalues⟩, ⟨fun h => (hrest flat h).2 rfl, hnodup⟩, hnew,
          fun name h => (hrest name h).1⟩
      · rintro ⟨⟨hvalue, hvalues⟩, ⟨hflat, hnodup⟩, -, hrest⟩
        exact ⟨hvalue, hvalues, hnodup, fun name h => ⟨hrest name h, fun e => hflat (e ▸ h)⟩⟩

/-! ## All tokens -/

theorem map_placed (field : FieldPath) (name : String) (token : ColorToken) :
    (placed field name token).map (fun e => (e.1, e.2.2)) = flattenToken name token := by
  cases token with
  | single value => rfl
  | group g => simp [placed, flattenToken]

theorem names_placed (field : FieldPath) (name : String) (token : ColorToken) :
    (placed field name token).map Prod.fst = (flattenToken name token).map Prod.fst := by
  rw [← map_placed field name token]
  simp

/-- The check of one token, its values aside. -/
theorem checkToken_errors_iff (field : FieldPath) (name : String) (token : ColorToken)
    (hcolors : ∀ e ∈ flattenToken name token, Color.IsColor e.2) :
    (checkToken field name token).errors = [] ↔ token.Fits name := by
  cases token with
  | single value => simp [checkToken, ColorToken.Fits]
  | group g =>
    have hneeded (key : String) (value : Option String)
        (hvalue : ∀ v, value = some v → Color.IsColor v) :
        (checkNeeded (field.key name) key value).errors = [] ↔ value.isSome = true := by
      rw [checkNeeded_errors_iff]
      cases value with
      | none => simp
      | some v =>
        -- A blank value is no color, and the value is one.
        cases hblank : (trim v).isEmpty with
        | true => exact absurd (hvalue v rfl) (not_isColor_of_blank hblank)
        | false => simpa using hblank
    have hvariant (key value : String) (h : (key, value) ∈ g.variants) : Color.IsColor value :=
      hcolors (variantName name key, value) (List.mem_map.2 ⟨(key, value), h, rfl⟩)
    have hdefault := hneeded "DEFAULT" g.default fun v hv =>
      hvariant "DEFAULT" v (by simp [ColorGroup.variants, hv])
    have hforeground := hneeded "foreground" g.foreground fun v hv =>
      hvariant "foreground" v (by simp [ColorGroup.variants, hv])
    simp [checkToken, checkGroup, ColorToken.Fits, hdefault, hforeground]

/-- The tokens of a table pass when each of them fits, their values are colors, and their flat
names are new and come once. -/
theorem checkTokens_errors_iff (field : FieldPath) (seen : List (String × FieldPath))
    (entries : List (String × ColorToken)) :
    (checkTokens field seen entries).errors = [] ↔
      (∀ e ∈ entries, e.2.Fits e.1) ∧
      (∀ e ∈ entries.flatMap fun e => flattenToken e.1 e.2, Color.IsColor e.2) ∧
      ((entries.flatMap fun e => flattenToken e.1 e.2).map Prod.fst).Nodup ∧
      ∀ name ∈ (entries.flatMap fun e => flattenToken e.1 e.2).map Prod.fst,
        name ∉ seen.map Prod.fst := by
  induction entries generalizing seen with
  | nil => simp [checkTokens]
  | cons e rest ih =>
    obtain ⟨name, token⟩ := e
    -- The row of the first token is checked with its names placed, which changes no value.
    have hcolors : (∀ e ∈ placed field name token, Color.IsColor e.2.2) ↔
        ∀ e ∈ flattenToken name token, Color.IsColor e.2 := by
      rw [← map_placed field name token, List.forall_mem_map]
    simp only [checkTokens, Diagnostics.errors_append_eq_nil_iff, checkColors_errors_iff, ih,
      mem_seen_checkColors, names_placed, hcolors, List.flatMap_cons, List.map_append,
      List.mem_append, List.nodup_append, List.forall_mem_cons, not_or]
    constructor
    · rintro ⟨⟨htoken, hvalues, hnodup, hnew⟩, hfits, hrestValues, hrestNodup, hrestNew⟩
      refine ⟨⟨(checkToken_errors_iff field name token hvalues).1 htoken, hfits⟩, ?_, ?_, ?_⟩
      · rintro e (he | he)
        · exact hvalues e he
        · exact hrestValues e he
      · exact ⟨hnodup, hrestNodup, fun a ha b hb hab => (hrestNew b hb).2 (hab ▸ ha)⟩
      · rintro x (hx | hx)
        · exact hnew x hx
        · exact (hrestNew x hx).1
    · rintro ⟨⟨hfit, hfits⟩, hvalues, ⟨hnodup, hrestNodup, hdisjoint⟩, hnew⟩
      have hown : ∀ e ∈ flattenToken name token, Color.IsColor e.2 :=
        fun e he => hvalues e (.inl he)
      exact ⟨⟨(checkToken_errors_iff field name token hown).2 hfit, hown, hnodup,
        fun x hx => hnew x (.inl hx)⟩, hfits, fun e he => hvalues e (.inr he), hrestNodup,
        fun x hx => ⟨hnew x (.inr hx), fun hx' => hdisjoint x hx' x hx rfl⟩⟩

/-- The check of a table reports no error exactly when the table is valid. -/
theorem errors_eq_nil_iff (colors : ColorTokens) (field : FieldPath) :
    (colors.diagnostics field).errors = [] ↔ colors.Valid := by
  rw [diagnostics, checkTokens_errors_iff]
  constructor
  · rintro ⟨hfits, hcolors, hnodup, -⟩
    exact ⟨hfits, hcolors, hnodup⟩
  · rintro ⟨hfits, hcolors, hnodup⟩
    exact ⟨hfits, hcolors, hnodup, by simp⟩

end ColorTokens

end DocSite
