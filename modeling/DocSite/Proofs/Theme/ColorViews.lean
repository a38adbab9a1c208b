import DocSite.Proofs.Theme.ColorValidity
import DocSite.Theme.Utility

/-!
# The views of a color table agree

  A color table can be read in three ways: as the list of its flat names, by
  looking a flat name up, and through the classes of color utilities. The list is
  made by joining names and keys, the look-up cuts a name at each of its hyphens.
  On a valid table all three give the same colors to the same names.
-/

namespace DocSite

open DocSite.Text

namespace ColorTokens

/-! ## Flat names -/

theorem mem_hyphenCuts_cons {c : Char} {cs a b : List Char} : (a, b) ∈ hyphenCuts (c :: cs) ↔
    (c = '-' ∧ a = [] ∧ cs = b) ∨ ∃ x, a = c :: x ∧ (x, b) ∈ hyphenCuts cs := by
  have hlater : (∃ x y, (x, y) ∈ hyphenCuts cs ∧ c :: x = a ∧ y = b) ↔
      ∃ x, a = c :: x ∧ (x, b) ∈ hyphenCuts cs := by
    constructor
    · rintro ⟨x, y, hmem, rfl, rfl⟩
      exact ⟨x, rfl, hmem⟩
    · rintro ⟨x, rfl, hmem⟩
      exact ⟨x, b, hmem, rfl, rfl⟩
  rw [hyphenCuts, ← hlater]
  by_cases hc : c = '-'
  · subst hc
    simp only [beq_self_eq_true, if_true, List.mem_cons, List.mem_map, Prod.exists, Prod.mk.injEq,
      true_and, eq_comm]
  · have hne : (c == '-') = false := by simpa using hc
    simp [hne, hc]

/-- The cuts of a text are the ways to write it with a hyphen in the middle. -/
theorem mem_hyphenCuts {cs a b : List Char} : (a, b) ∈ hyphenCuts cs ↔ cs = a ++ '-' :: b := by
  induction cs generalizing a with
  | nil => simp [hyphenCuts]
  | cons c cs ih =>
    rw [mem_hyphenCuts_cons]
    cases a with
    | nil => simp
    | cons d a =>
      constructor
      · rintro (⟨-, h, -⟩ | ⟨x, h, hmem⟩)
        · simp at h
        · obtain ⟨rfl, rfl⟩ := List.cons.inj h
          rw [ih.1 hmem, List.cons_append]
      · intro h
        obtain ⟨rfl, hcs⟩ := List.cons.inj h
        exact .inr ⟨a, rfl, ih.2 hcs⟩

/-- A flat name with its color comes from a single color or from a variant of a group. -/
theorem mem_flatten_iff {colors : ColorTokens} {name value : String} :
    (name, value) ∈ colors.flatten ↔
      (name, .single value) ∈ colors.tokens.entries ∨
        ∃ group g key, (group, .group g) ∈ colors.tokens.entries ∧ (key, value) ∈ g.variants ∧
          name = variantName group key := by
  simp only [flatten, List.mem_flatMap, Prod.exists]
  constructor
  · rintro ⟨owner, token, hmem, h⟩
    cases token with
    | single v =>
      obtain ⟨rfl, rfl⟩ : name = owner ∧ value = v := by simpa [flattenToken] using h
      exact .inl hmem
    | group g =>
      obtain ⟨⟨key, v⟩, hvariant, he⟩ := List.mem_map.1 h
      obtain ⟨rfl, rfl⟩ := Prod.mk.inj he
      exact .inr ⟨owner, g, key, hmem, hvariant, rfl⟩
  · rintro (h | ⟨group, g, key, hmem, hvariant, rfl⟩)
    · exact ⟨name, _, h, by simp [flattenToken]⟩
    · exact ⟨group, _, hmem, List.mem_map.2 ⟨(key, value), hvariant, rfl⟩⟩

/-- In a valid table a flat name has one color. -/
theorem Valid.unique {colors : ColorTokens} (h : colors.Valid) {name v w : String}
    (hv : (name, v) ∈ colors.flatten) (hw : (name, w) ∈ colors.flatten) : v = w := by
  have hlookup := Table.lookup_of_mem h.nodup hv
  rw [Table.lookup_of_mem h.nodup hw] at hlookup
  exact (Option.some.inj hlookup).symm

/-! ## Looking up -/

/-- What a cut name points to is a variant other than the default. -/
theorem of_variantAt? {colors : ColorTokens} {group key value : String}
    (h : colors.variantAt? group key = some value) :
    ∃ g, (group, .group g) ∈ colors.tokens.entries ∧ (key, value) ∈ g.variants ∧
      key ≠ "DEFAULT" := by
  unfold variantAt? at h
  split at h
  · rename_i g hg
    obtain ⟨⟨k, v⟩, hfind, rfl⟩ := Option.map_eq_some_iff.1 h
    have hmatch := List.find?_some hfind
    simp only [Bool.and_eq_true, beq_iff_eq, bne_iff_ne] at hmatch
    refine ⟨g, (Table.get?_eq_some_iff _).1 hg, ?_, hmatch.1 ▸ hmatch.2⟩
    rw [← hmatch.1]
    exact List.mem_of_find?_eq_some hfind
  · simp at h

theorem isSome_variantAt? {colors : ColorTokens} {group key value : String} {g : ColorGroup}
    (hg : (group, .group g) ∈ colors.tokens.entries) (hvariant : (key, value) ∈ g.variants)
    (hkey : key ≠ "DEFAULT") : (colors.variantAt? group key).isSome = true := by
  have hget : colors.tokens.get? group = some (.group g) := (Table.get?_eq_some_iff _).2 hg
  rw [variantAt?, hget, Option.isSome_map, List.find?_isSome]
  exact ⟨(key, value), hvariant, by simpa using hkey⟩

/-- What is looked up is listed. -/
theorem mem_flatten_of_get? {colors : ColorTokens} {name value : String}
    (h : colors.get? name = some value) : (name, value) ∈ colors.flatten := by
  rw [mem_flatten_iff]
  unfold get? at h
  split at h
  · rename_i v hget
    rw [← Option.some.inj h]
    exact .inl ((Table.get?_eq_some_iff _).1 hget)
  · rename_i g hget
    refine .inr ⟨name, g, "DEFAULT", (Table.get?_eq_some_iff _).1 hget, ?_, by simp [variantName]⟩
    simp [ColorGroup.variants, h]
  · obtain ⟨⟨a, b⟩, hcut, hvariant⟩ := List.exists_of_findSome?_eq_some h
    obtain ⟨g, hg, hmem, hkey⟩ := of_variantAt? hvariant
    refine .inr ⟨_, g, _, hg, hmem, ?_⟩
    rw [variantName, if_neg hkey, ← String.ofList_toList (s := name), mem_hyphenCuts.1 hcut]
    apply String.toList_injective
    simp

/-- What is listed can be looked up, if every group has a default. -/
theorem isSome_get?_of_mem_flatten {colors : ColorTokens} (h : colors.Valid) {name value : String}
    (hmem : (name, value) ∈ colors.flatten) : (colors.get? name).isSome = true := by
  have hdefault {group : String} {g : ColorGroup}
      (hg : colors.tokens.get? group = some (.group g)) : g.default.isSome = true :=
    (h.fits _ ((Table.get?_eq_some_iff _).1 hg)).2.1
  unfold get?
  split
  · rfl
  · rename_i g hg
    exact hdefault hg
  · rename_i hnone
    -- No token has the name itself, so some cut of it points to a variant.
    rcases mem_flatten_iff.1 hmem with hsingle | ⟨group, g, key, hg, hvariant, rfl⟩
    · simp [(Table.get?_eq_some_iff _).2 hsingle] at hnone
    · have hkey : key ≠ "DEFAULT" := by
        rintro rfl
        simp [variantName, (Table.get?_eq_some_iff _).2 hg] at hnone
      rw [List.findSome?_isSome_iff]
      refine ⟨(group.toList, key.toList), mem_hyphenCuts.2 ?_, ?_⟩
      · simp [variantName, hkey]
      · simpa using isSome_variantAt? hg hvariant hkey

/-- Looking up and listing agree. -/
theorem Valid.get?_eq_some_iff {colors : ColorTokens} (h : colors.Valid) {name value : String} :
    colors.get? name = some value ↔ (name, value) ∈ colors.flatten := by
  refine ⟨mem_flatten_of_get?, fun hmem => ?_⟩
  obtain ⟨found, hfound⟩ := Option.isSome_iff_exists.1 (isSome_get?_of_mem_flatten h hmem)
  rw [hfound, h.unique hmem (mem_flatten_of_get? hfound)]

theorem resolve_eq (colors : ColorTokens) (name : String) :
    colors.resolve name = (colors.get? name).elim (.error (.unknownToken name name)) .ok := by
  unfold resolve
  cases colors.get? name <;> rfl

end ColorTokens

/-! ## Classes -/

namespace Theme

open Utility

/-- A name that can stand in a class as a whole. -/
def IsPlainName (name : String) : Prop :=
  ∀ c ∈ name.toList, c ≠ ':' ∧ c ≠ '/' ∧ isBlank c = false

/-- The class of a color utility goes to the colors, with the name behind its hyphen. -/
theorem resolveBase_color (t : Theme) (className : String) {utility property : String}
    (h : (utility, property) ∈ colorUtilities) (rest : List Char) :
    t.resolveBase className (utility.toList ++ '-' :: rest) =
      (t.resolveColor className rest).map fun value => (property, value) := by
  simp only [colorUtilities, List.mem_cons, Prod.mk.injEq, List.not_mem_nil, or_false] at h
  rcases h with ⟨rfl, rfl⟩ | ⟨rfl, rfl⟩ | ⟨rfl, rfl⟩ | ⟨rfl, rfl⟩ | ⟨rfl, rfl⟩ | ⟨rfl, rfl⟩ |
    ⟨rfl, rfl⟩ | ⟨rfl, rfl⟩ | ⟨rfl, rfl⟩ | ⟨rfl, rfl⟩ <;>
  · cases hcolor : t.resolveColor className rest <;>
      simp [resolveBase, colorUtility?, colorUtilities, dropStart?, hcolor] <;> rfl

/-- A class without variants is resolved to one rule with its declaration. -/
theorem resolveUtility_plain (t : Theme) {text : String}
    (htrim : trimBoth text.toList = text.toList) (hcolon : ':' ∉ text.toList) :
    t.resolveUtility text = (t.resolveBase text text.toList).map fun declaration =>
      { selector := String.ofList ('.' :: escapeClass text.toList)
        declarations := [declaration] } := by
  by_cases hempty : text = ""
  · subst hempty
    rfl
  · have hbase : text.toList.isEmpty = false := by simpa using hempty
    simp only [resolveUtility, htrim, splitOn_of_not_mem hcolon, String.ofList_toList,
      List.getLast?_singleton, Option.getD_some, hbase]
    cases t.resolveBase text text.toList <;> rfl

theorem utility_chars : ∀ e ∈ colorUtilities, ∀ c ∈ e.1.toList, c ≠ ':' ∧ isBlank c = false := by
  have h : colorUtilities.all (fun e => e.1.toList.all fun c => c != ':' && !isBlank c) = true := by
    decide
  simpa only [List.all_eq_true, Bool.and_eq_true, bne_iff_ne, Bool.not_eq_true'] using h

theorem resolveColor_plain (t : Theme) (className : String) {name : String}
    (h : '/' ∉ name.toList) :
    t.resolveColor className name.toList =
      tokenOr className name (t.tokens.colors.get? name) := by
  simp [resolveColor, splitOnce_eq_none h]

/-- The class of a color utility and a plain name is resolved by looking the name up. -/
theorem resolveUtility_color (t : Theme) {utility property name : String}
    (h : (utility, property) ∈ colorUtilities) (hname : IsPlainName name) :
    t.resolveUtility (utility ++ "-" ++ name) =
      (t.tokens.colors.get? name).elim (.error (.unknownToken (utility ++ "-" ++ name) name))
        fun value => .ok
          { selector := String.ofList ('.' :: escapeClass (utility ++ "-" ++ name).toList)
            declarations := [(property, value)] } := by
  have hchars : (utility ++ "-" ++ name).toList = utility.toList ++ '-' :: name.toList := by simp
  have hall : ∀ c ∈ (utility ++ "-" ++ name).toList, c ≠ ':' ∧ isBlank c = false := by
    intro c hc
    rw [hchars, List.mem_append, List.mem_cons] at hc
    rcases hc with hc | rfl | hc
    · exact utility_chars _ h c hc
    · decide
    · exact ⟨(hname c hc).1, (hname c hc).2.2⟩
  have hslash : '/' ∉ name.toList := fun hc => (hname '/' hc).2.1 rfl
  have htrim := trimBoth_of_not_blank fun c hc => (hall c hc).2
  rw [resolveUtility_plain t htrim fun hc => (hall ':' hc).1 rfl, hchars,
    resolveBase_color t _ h, resolveColor_plain t _ hslash]
  cases t.tokens.colors.get? name <;> rfl

end Theme

namespace ColorTokens

open Utility Theme

/-! ## All views -/

/-- A character of a name: a lower-case letter, a digit or a hyphen. -/
def IsNameChar (c : Char) : Prop := c.isLower = true ∨ c.isDigit = true ∨ c = '-'

theorem isNameChar_of_isShadeName {name : String} (h : isShadeName name = true) :
    ∀ c ∈ name.toList, IsNameChar c := by
  intro c hc
  by_cases hyphen : c = '-'
  · exact .inr (.inr hyphen)
  · obtain ⟨word, hword, hcw⟩ := exists_mem_splitOn hc hyphen
    have hfits := List.all_eq_true.1 h word hword
    simp only [Bool.and_eq_true] at hfits
    have := List.all_eq_true.1 hfits.2 c hcw
    simp only [Bool.or_eq_true] at this
    exact this.elim .inl (.inr ∘ .inl)

theorem isNameChar_of_isTokenName {name : String} (h : isTokenName name = true) :
    ∀ c ∈ name.toList, IsNameChar c := by
  simp only [isTokenName, Bool.and_eq_true] at h
  exact isNameChar_of_isShadeName h.1

theorem IsNameChar.plain {c : Char} (h : IsNameChar c) :
    c ≠ ':' ∧ c ≠ '/' ∧ isBlank c = false := by
  have hgraphic : IsGraphic c := by
    rcases h with h | h | rfl
    · exact isGraphic_of_isAlphanum (by simp [Char.isAlphanum, Char.isAlpha, h])
    · exact isGraphic_of_isDigit h
    · decide
  refine ⟨?_, ?_, hgraphic.not_blank⟩ <;>
  · rintro rfl
    revert h
    simp [IsNameChar]

/-- The keys of a group that fits are names. -/
theorem isNameChar_variant {name : String} {g : ColorGroup} (h : (ColorToken.group g).Fits name)
    {key value : String} (hmem : (key, value) ∈ g.variants) (hkey : key ≠ "DEFAULT") :
    ∀ c ∈ key.toList, IsNameChar c := by
  have hwords : ∀ word ∈ ["foreground", "light", "dark"], isShadeName word = true := by decide
  apply isNameChar_of_isShadeName
  simp only [ColorGroup.variants, List.mem_append, Option.mem_toList, Option.map_eq_some_iff,
    Prod.mk.injEq] at hmem
  rcases hmem with (((⟨_, -, rfl, -⟩ | ⟨_, -, rfl, -⟩) | ⟨_, -, rfl, -⟩) | ⟨_, -, rfl, -⟩) | hmem
  · exact absurd rfl hkey
  · exact hwords _ (by simp)
  · exact hwords _ (by simp)
  · exact hwords _ (by simp)
  · exact h.2.2.2 key (List.mem_map.2 ⟨_, hmem, rfl⟩)

/-- The flat names of a valid table are plain. -/
theorem Valid.isPlainName {colors : ColorTokens} (h : colors.Valid) {name value : String}
    (hmem : (name, value) ∈ colors.flatten) : IsPlainName name := by
  have hchars : ∀ c ∈ name.toList, IsNameChar c := by
    rcases mem_flatten_iff.1 hmem with hsingle | ⟨group, g, key, hg, hvariant, rfl⟩
    · exact isNameChar_of_isTokenName (h.fits _ hsingle)
    · have hfits := h.fits _ hg
      intro c hc
      unfold variantName at hc
      split at hc
      · exact isNameChar_of_isTokenName hfits.1 c hc
      · rename_i hkey
        simp only [String.toList_append, List.mem_append] at hc
        rcases hc with (hc | hc) | hc
        · exact isNameChar_of_isTokenName hfits.1 c hc
        · exact .inr (.inr (by simpa using hc))
        · exact isNameChar_variant hfits hvariant hkey c hc
  exact fun c hc => (hchars c hc).plain

/-- On a table that passes its check, the list of flat names, the look-up of a name and the
classes of color utilities agree. -/
theorem views_agree (colors : ColorTokens) (field : FieldPath)
    (h : (colors.diagnostics field).errors = []) :
    (colors.flatten.map Prod.fst).Nodup ∧
    (∀ name value, colors.get? name = some value ↔ (name, value) ∈ colors.flatten) ∧
    (∀ name value, (name, value) ∈ colors.flatten → colors.resolve name = .ok value) ∧
    (∀ name, name ∉ colors.flatten.map Prod.fst →
      colors.resolve name = .error (.unknownToken name name)) ∧
    ∀ t : Theme, t.tokens.colors = colors →
      ∀ utility property, (utility, property) ∈ colorUtilities →
        (∀ name value, (name, value) ∈ colors.flatten →
          ∃ u, t.resolveUtility (utility ++ "-" ++ name) = .ok u ∧
            u.declarations = [(property, value)]) ∧
        ∀ name, IsPlainName name → name ∉ colors.flatten.map Prod.fst →
          t.resolveUtility (utility ++ "-" ++ name) =
            .error (.unknownToken (utility ++ "-" ++ name) name) := by
  have hvalid := (errors_eq_nil_iff colors field).1 h
  have hnone (name : String) (hname : name ∉ colors.flatten.map Prod.fst) :
      colors.get? name = none := by
    cases hget : colors.get? name with
    | none => rfl
    | some value => exact absurd (List.mem_map.2 ⟨_, mem_flatten_of_get? hget, rfl⟩) hname
  refine ⟨hvalid.nodup, fun _ _ => hvalid.get?_eq_some_iff, ?_, ?_, ?_⟩
  · intro name value hmem
    rw [resolve_eq, hvalid.get?_eq_some_iff.2 hmem]
    rfl
  · intro name hname
    rw [resolve_eq, hnone name hname]
    rfl
  · rintro t rfl utility property hutility
    constructor
    · intro name value hmem
      rw [resolveUtility_color t hutility (hvalid.isPlainName hmem),
        hvalid.get?_eq_some_iff.2 hmem]
      exact ⟨_, rfl, rfl⟩
    · intro name hplain hname
      rw [resolveUtility_color t hutility hplain, hnone name hname]
      rfl

/-- A table in which a name with hyphens can be cut in several ways. -/
def hyphenated : ColorTokens where
  tokens := ⟨[("muted", .group
      { default := some "#fff"
        foreground := some "#000"
        shades := ⟨[("b-c", "#123")], by simp⟩ }),
    ("muted-b", .single "#456")], by simp⟩

theorem views_agree_hyphenated : (hyphenated.diagnostics ⟨"colors"⟩).errors = [] ∧
    hyphenated.get? "muted-b-c" = some "#123" ∧
    hyphenated.resolve "muted-b-foreground" =
      .error (.unknownToken "muted-b-foreground" "muted-b-foreground") ∧
    Theme.resolveUtility { tokens := { colors := hyphenated } } "bg-c" =
      .error (.unknownToken "bg-c" "c") := by
  have h : (hyphenated.diagnostics ⟨"colors"⟩).errors = [] := by decide +kernel
  obtain ⟨-, hget, -, hunknown, hclass⟩ := views_agree hyphenated ⟨"colors"⟩ h
  refine ⟨h, (hget _ _).2 (by decide), hunknown _ (by decide), ?_⟩
  have hplain : Theme.IsPlainName "c" := by simp [Theme.IsPlainName, isBlank]
  exact (hclass _ rfl "bg" "background-color" (by decide)).2 "c" hplain (by decide)

end ColorTokens

end DocSite
