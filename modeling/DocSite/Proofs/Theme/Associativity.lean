import DocSite.Proofs.Theme.Layers

/-!
# The order of layering does not matter

  Three themes can be layered in two ways: the upper two first, or the lower two
  first. Both ways succeed exactly when no two of the three themes define the same
  thing, whichever pair is looked at first, and then both give the same theme, with
  its lists and tables in the same order.
-/

namespace DocSite

/-! ## Lists -/

namespace Theme

section Lists

variable {α : Type} [BEq α] [LawfulBEq α]

/-- An item that is there already is not added. -/
theorem union_single_of_mem {items : List α} {x : α} (h : x ∈ items) :
    union items [x] = items := by
  simp [union, h]

/-- A new item is added at the end. -/
theorem union_single_of_not_mem {items : List α} {x : α} (h : x ∉ items) :
    union items [x] = items ++ [x] := by
  simp [union, h]

theorem mem_union {base overlay : List α} {x : α} :
    x ∈ union base overlay ↔ x ∈ base ∨ x ∈ overlay := by
  induction overlay generalizing base with
  | nil => simp [union]
  | cons y rest ih =>
    have hone : x ∈ union base [y] ↔ x ∈ base ∨ x = y := by
      by_cases hy : y ∈ base
      · rw [union_single_of_mem hy]
        constructor
        · exact .inl
        · rintro (hx | rfl)
          · exact hx
          · exact hy
      · rw [union_single_of_not_mem hy, List.mem_append, List.mem_singleton]
    show x ∈ union (union base [y]) rest ↔ _
    rw [ih, hone, List.mem_cons, or_assoc]

/-- It does not matter whether an item is added to the upper list or to the union. -/
theorem union_union_single (base items : List α) (x : α) :
    union base (union items [x]) = union (union base items) [x] := by
  by_cases hx : x ∈ items
  · have hmem : x ∈ union base items := mem_union.2 (.inr hx)
    rw [union_single_of_mem hx, union_single_of_mem hmem]
  · rw [union_single_of_not_mem hx]
    simp only [union, List.foldl_append]

/-- Uniting lists is associative, although items that come twice in the lowest list stay. -/
theorem union_assoc (a b c : List α) : union (union a b) c = union a (union b c) := by
  -- The items of the upper list are added one by one, so the middle list varies.
  induction c generalizing b with
  | nil => rfl
  | cons x rest ih =>
    show union (union (union a b) [x]) rest = union a (union (union b [x]) rest)
    rw [← union_union_single, ih]

end Lists

end Theme

/-! ## Tables and options -/

namespace TokenSet

variable {α : Type}

/-- Two tables have no name in common. -/
def Apart (base overlay : Table α) : Prop := ∀ key ∈ overlay.keys, key ∉ base.keys

theorem keys_mergeTables {base overlay : Table α} (h : Apart base overlay) :
    (mergeTables base overlay).keys = base.keys ++ overlay.keys := by
  simp only [Table.keys, entries_mergeTables h, List.map_append]

/-- What has no name in common with two layered tables has none with either. -/
theorem apart_mergeTables_left {a b : Table α} (h : Apart a b) (c : Table α) :
    Apart (mergeTables a b) c ↔ Apart a c ∧ Apart b c := by
  simp only [Apart, keys_mergeTables h, List.mem_append, not_or]
  exact forall₂_and

theorem apart_mergeTables_right (a : Table α) {b c : Table α} (h : Apart b c) :
    Apart a (mergeTables b c) ↔ Apart a b ∧ Apart a c := by
  simp only [Apart, keys_mergeTables h, List.mem_append, or_imp]
  exact forall_and

/-- Layering tables without common names is associative. -/
theorem mergeTables_assoc {a b c : Table α} (hab : Apart a b) (hac : Apart a c)
    (hbc : Apart b c) :
    mergeTables (mergeTables a b) c = mergeTables a (mergeTables b c) := by
  apply Table.ext_entries
  have hleft : Apart (mergeTables a b) c := (apart_mergeTables_left hab c).2 ⟨hac, hbc⟩
  have hright : Apart a (mergeTables b c) := (apart_mergeTables_right a hbc).2 ⟨hab, hac⟩
  rw [entries_mergeTables hleft, entries_mergeTables hright, entries_mergeTables hab,
    entries_mergeTables hbc, List.append_assoc]

/-- At most one of two optional values is there. -/
def AtMostOne (base overlay : Option α) : Prop := base = none ∨ overlay = none

theorem errors_redefinedOptional_eq_nil_iff (field : FieldPath) (baseName : String)
    (base overlay : Option α) :
    (redefinedOptional field baseName base overlay).errors = [] ↔ AtMostOne base overlay := by
  cases base <;> cases overlay <;> simp [redefinedOptional, AtMostOne]

theorem atMostOne_mergeOptional_left {a b : Option α} (h : AtMostOne a b) (c : Option α) :
    AtMostOne (mergeOptional a b) c ↔ AtMostOne a c ∧ AtMostOne b c := by
  cases a <;> cases b <;> simp_all [AtMostOne, mergeOptional]

theorem atMostOne_mergeOptional_right (a : Option α) {b c : Option α} (h : AtMostOne b c) :
    AtMostOne a (mergeOptional b c) ↔ AtMostOne a b ∧ AtMostOne a c := by
  cases b <;> cases c <;> simp_all [AtMostOne, mergeOptional]

theorem mergeOptional_assoc (a b c : Option α) :
    mergeOptional (mergeOptional a b) c = mergeOptional a (mergeOptional b c) := by
  cases a <;> rfl

/-! ## Token sets -/

/-- Two sets define nothing twice. -/
@[mk_iff]
structure Fits (base overlay : TokenSet) : Prop where
  colors : Apart base.colors.tokens overlay.colors.tokens
  tiers : Apart base.borderRadius.tiers overlay.borderRadius.tiers
  roles : Apart base.fontFamily.roles overlay.fontFamily.roles
  animation : Apart base.animation.shorthands overlay.animation.shorthands
  keyframes : Apart base.keyframes.blocks overlay.keyframes.blocks
  typography : AtMostOne base.typography overlay.typography

/-- Layering two sets is free of errors exactly if they define nothing twice. -/
theorem errors_conflicts_eq_nil_iff (baseName : String) (base overlay : TokenSet) :
    (conflicts baseName base overlay).errors = [] ↔ Fits base overlay := by
  simp only [conflicts, Diagnostics.errors_append_eq_nil_iff, errors_redefined_eq_nil_iff,
    errors_redefinedOptional_eq_nil_iff, fits_iff, and_assoc]
  rfl

theorem fits_merge_left {a b : TokenSet} (h : Fits a b) (c : TokenSet) :
    Fits (a.merge b) c ↔ Fits a c ∧ Fits b c := by
  simp only [fits_iff, merge, apart_mergeTables_left h.colors, apart_mergeTables_left h.tiers,
    apart_mergeTables_left h.roles, apart_mergeTables_left h.animation,
    apart_mergeTables_left h.keyframes, atMostOne_mergeOptional_left h.typography]
  tauto

theorem fits_merge_right (a : TokenSet) {b c : TokenSet} (h : Fits b c) :
    Fits a (b.merge c) ↔ Fits a b ∧ Fits a c := by
  simp only [fits_iff, merge, apart_mergeTables_right _ h.colors,
    apart_mergeTables_right _ h.tiers, apart_mergeTables_right _ h.roles,
    apart_mergeTables_right _ h.animation, apart_mergeTables_right _ h.keyframes,
    atMostOne_mergeOptional_right _ h.typography]
  tauto

/-- Layering sets that define nothing twice is associative. -/
theorem merge_assoc_of_fits {a b c : TokenSet} (hab : Fits a b) (hac : Fits a c)
    (hbc : Fits b c) : (a.merge b).merge c = a.merge (b.merge c) := by
  simp only [merge, mergeOptional_assoc, mergeTables_assoc hab.colors hac.colors hbc.colors,
    mergeTables_assoc hab.tiers hac.tiers hbc.tiers,
    mergeTables_assoc hab.roles hac.roles hbc.roles,
    mergeTables_assoc hab.animation hac.animation hbc.animation,
    mergeTables_assoc hab.keyframes hac.keyframes hbc.keyframes]

end TokenSet

/-! ## Themes -/

namespace Theme

/-- Two themes define nothing twice. -/
structure Fits (base overlay : Theme) : Prop where
  container : TokenSet.AtMostOne base.container overlay.container
  tokens : TokenSet.Fits base.tokens overlay.tokens

/-- A theme with another one on it, whether they fit or not. -/
def under (base overlay : Theme) : Theme where
  path := overlay.path
  baseFile := overlay.baseFile
  stylesheet := overlay.stylesheet.orElse fun _ => base.stylesheet
  content := union base.content overlay.content
  darkMode := overlay.darkMode.orElse fun _ => base.darkMode
  plugins := union base.plugins overlay.plugins
  container := TokenSet.mergeOptional base.container overlay.container
  tokens := base.tokens.merge overlay.tokens

theorem isOk_conflicts_iff (base overlay : Theme) :
    (conflicts base overlay).isOk = true ↔ Fits base overlay := by
  rw [Diagnostics.isOk, List.isEmpty_iff, conflicts, Diagnostics.errors_append_eq_nil_iff,
    TokenSet.errors_redefinedOptional_eq_nil_iff, TokenSet.errors_conflicts_eq_nil_iff]
  constructor
  · rintro ⟨hcontainer, htokens⟩
    exact ⟨hcontainer, htokens⟩
  · intro h
    exact ⟨h.container, h.tokens⟩

/-- Themes are layered if they fit, and refused if they do not. -/
theorem merge_eq_ok_iff {base overlay whole : Theme} :
    base.merge overlay = .ok whole ↔ Fits base overlay ∧ base.under overlay = whole := by
  have hmerge : base.merge overlay = if (conflicts base overlay).isOk then
      .ok (base.under overlay) else .error (conflicts base overlay) := rfl
  rw [hmerge, ← isOk_conflicts_iff]
  cases (conflicts base overlay).isOk <;> simp

theorem fits_under_left {a b : Theme} (h : Fits a b) (c : Theme) :
    Fits (a.under b) c ↔ Fits a c ∧ Fits b c := by
  have hcontainer := TokenSet.atMostOne_mergeOptional_left h.container c.container
  have htokens := TokenSet.fits_merge_left h.tokens c.tokens
  constructor
  · intro hm
    obtain ⟨hac, hbc⟩ := hcontainer.1 hm.container
    obtain ⟨hac', hbc'⟩ := htokens.1 hm.tokens
    exact ⟨⟨hac, hac'⟩, ⟨hbc, hbc'⟩⟩
  · rintro ⟨hac, hbc⟩
    exact ⟨hcontainer.2 ⟨hac.container, hbc.container⟩, htokens.2 ⟨hac.tokens, hbc.tokens⟩⟩

theorem fits_under_right (a : Theme) {b c : Theme} (h : Fits b c) :
    Fits a (b.under c) ↔ Fits a b ∧ Fits a c := by
  have hcontainer := TokenSet.atMostOne_mergeOptional_right a.container h.container
  have htokens := TokenSet.fits_merge_right a.tokens h.tokens
  constructor
  · intro hm
    obtain ⟨hab, hac⟩ := hcontainer.1 hm.container
    obtain ⟨hab', hac'⟩ := htokens.1 hm.tokens
    exact ⟨⟨hab, hab'⟩, ⟨hac, hac'⟩⟩
  · rintro ⟨hab, hac⟩
    exact ⟨hcontainer.2 ⟨hab.container, hac.container⟩, htokens.2 ⟨hab.tokens, hac.tokens⟩⟩

theorem under_assoc {a b c : Theme} (hab : Fits a b) (hac : Fits a c) (hbc : Fits b c) :
    (a.under b).under c = a.under (b.under c) := by
  have hstylesheet : c.stylesheet.orElse (fun _ => b.stylesheet.orElse fun _ => a.stylesheet) =
      (c.stylesheet.orElse fun _ => b.stylesheet).orElse fun _ => a.stylesheet := by
    cases c.stylesheet <;> rfl
  have hdarkMode : c.darkMode.orElse (fun _ => b.darkMode.orElse fun _ => a.darkMode) =
      (c.darkMode.orElse fun _ => b.darkMode).orElse fun _ => a.darkMode := by
    cases c.darkMode <;> rfl
  simp only [under, hstylesheet, hdarkMode, union_assoc, TokenSet.mergeOptional_assoc,
    TokenSet.merge_assoc_of_fits hab.tokens hac.tokens hbc.tokens]

/-- A theme goes on two layered ones when all pairs of the three fit. -/
theorem merge_lower_eq_ok_iff {a b c whole : Theme} :
    (a.merge b >>= fun lower => lower.merge c) = .ok whole ↔
      (Fits a b ∧ Fits a c ∧ Fits b c) ∧ (a.under b).under c = whole := by
  constructor
  · intro h
    cases hlower : a.merge b with
    | error found => simp [hlower, bind, Except.bind] at h
    | ok lower =>
      obtain ⟨hab, rfl⟩ := merge_eq_ok_iff.1 hlower
      rw [hlower] at h
      obtain ⟨hc, hwhole⟩ := merge_eq_ok_iff.1 (show (a.under b).merge c = .ok whole from h)
      obtain ⟨hac, hbc⟩ := (fits_under_left hab c).1 hc
      exact ⟨⟨hab, hac, hbc⟩, hwhole⟩
  · rintro ⟨⟨hab, hac, hbc⟩, hwhole⟩
    have hc : Fits (a.under b) c := (fits_under_left hab c).2 ⟨hac, hbc⟩
    rw [merge_eq_ok_iff.2 ⟨hab, rfl⟩]
    exact merge_eq_ok_iff.2 ⟨hc, hwhole⟩

/-- Two layered themes go on a third one when all pairs of the three fit. -/
theorem merge_upper_eq_ok_iff {a b c whole : Theme} :
    (b.merge c >>= fun upper => a.merge upper) = .ok whole ↔
      (Fits a b ∧ Fits a c ∧ Fits b c) ∧ a.under (b.under c) = whole := by
  constructor
  · intro h
    cases hupper : b.merge c with
    | error found => simp [hupper, bind, Except.bind] at h
    | ok upper =>
      obtain ⟨hbc, rfl⟩ := merge_eq_ok_iff.1 hupper
      rw [hupper] at h
      obtain ⟨ha, hwhole⟩ := merge_eq_ok_iff.1 (show a.merge (b.under c) = .ok whole from h)
      obtain ⟨hab, hac⟩ := (fits_under_right a hbc).1 ha
      exact ⟨⟨hab, hac, hbc⟩, hwhole⟩
  · rintro ⟨⟨hab, hac, hbc⟩, hwhole⟩
    have ha : Fits a (b.under c) := (fits_under_right a hbc).2 ⟨hab, hac⟩
    rw [merge_eq_ok_iff.2 ⟨hbc, rfl⟩]
    exact merge_eq_ok_iff.2 ⟨ha, hwhole⟩

/-- Layering is associative: either both ways of layering three themes are refused, or both
give one and the same theme. -/
theorem merge_assoc (a b c : Theme) :
    (∃ found found', (a.merge b >>= fun lower => lower.merge c) = .error found ∧
      (b.merge c >>= fun upper => a.merge upper) = .error found') ∨
    (∃ whole, (a.merge b >>= fun lower => lower.merge c) = .ok whole ∧
      (b.merge c >>= fun upper => a.merge upper) = .ok whole) := by
  -- Both ways ask the same of the three pairs, so one succeeds with what the other gives.
  have hsame (whole : Theme) : (a.merge b >>= fun lower => lower.merge c) = .ok whole ↔
      (b.merge c >>= fun upper => a.merge upper) = .ok whole := by
    rw [merge_lower_eq_ok_iff, merge_upper_eq_ok_iff]
    apply and_congr_right
    intro h
    rw [under_assoc h.1 h.2.1 h.2.2]
  cases hlower : (a.merge b >>= fun lower => lower.merge c) with
  | ok whole => exact .inr ⟨whole, rfl, (hsame whole).1 hlower⟩
  | error found =>
    cases hupper : (b.merge c >>= fun upper => a.merge upper) with
    | ok whole => simp [(hsame whole).2 hupper] at hlower
    | error found' => exact .inl ⟨found, found', rfl, rfl⟩

end Theme

end DocSite
