import DocSite.Proofs.Theme.ColorViews

/-!
# Layering never redefines a token

  A theme that is layered on another one adds tokens to it. Layering compares the
  names of whole tokens only, while colors are used through flat names, and an
  added token may claim a flat name that a group below already exposes. The check
  of the layered theme excludes this: if it reports no error, then each token of
  either layer keeps its value, and each class that the lower theme resolves is
  resolved to the same rule.
-/

namespace DocSite

open DocSite.Text

/-! ## Tables -/

namespace TokenSet

variable {α : Type}

/-- Two tables can be layered without an error exactly if they share no name. -/
theorem errors_redefined_eq_nil_iff (field : FieldPath) (baseName : String)
    (base overlay : Table α) :
    (redefined field baseName base overlay).errors = [] ↔
      ∀ key ∈ overlay.keys, key ∉ base.keys := by
  have hkey (key : String) : base.contains key = false ↔ key ∉ base.keys := by
    rw [← Table.contains_iff, Bool.not_eq_true]
  simp [redefined, List.flatMap_eq_nil_iff, hkey]

theorem entries_foldl_insertNew (entries : List (String × α)) (t : Table α)
    (hnodup : (entries.map Prod.fst).Nodup) (h : ∀ key ∈ entries.map Prod.fst, key ∉ t.keys) :
    (entries.foldl (fun t (key, value) => t.insertNew key value) t).entries =
      t.entries ++ entries := by
  induction entries generalizing t with
  | nil => simp
  | cons e rest ih =>
    obtain ⟨key, value⟩ := e
    obtain ⟨hnot, hrest⟩ := List.nodup_cons.1 hnodup
    have hinsert := Table.entries_insertNew (h key (by simp)) value
    have hfresh : ∀ k ∈ rest.map Prod.fst, k ∉ (t.insertNew key value).keys := by
      intro k hk hmem
      rw [Table.keys, hinsert, List.map_append, List.mem_append] at hmem
      rcases hmem with hmem | hmem
      · exact h k (List.mem_cons_of_mem _ hk) hmem
      · obtain rfl : k = key := by simpa using hmem
        exact hnot hk
    rw [List.foldl_cons, ih (t.insertNew key value) hrest hfresh, hinsert, List.append_assoc]
    rfl

/-- Tables that share no name are layered by listing the lower entries and then the upper ones. -/
theorem entries_mergeTables {base overlay : Table α}
    (h : ∀ key ∈ overlay.keys, key ∉ base.keys) :
    (mergeTables base overlay).entries = base.entries ++ overlay.entries :=
  entries_foldl_insertNew overlay.entries base overlay.nodup h

/-- What one of two tables says about a name, a table with the entries of both says too. -/
theorem get?_of_entries_append {base overlay merged : Table α}
    (h : merged.entries = base.entries ++ overlay.entries) {key : String} {value : α} :
    merged.get? key = some value ↔ base.get? key = some value ∨ overlay.get? key = some value := by
  simp only [Table.get?_eq_some_iff, h, List.mem_append]

end TokenSet

/-! ## Token sets -/

namespace TokenSet

/-- Every token of a set has the same value in a larger one. -/
structure KeptIn (part whole : TokenSet) : Prop where
  color {name : String} {token : ColorToken} :
    part.colors.tokens.get? name = some token → whole.colors.tokens.get? name = some token
  flatName {name value : String} :
    (name, value) ∈ part.colors.flatten → whole.colors.get? name = some value
  tier {tier expr : String} :
    part.borderRadius.get? tier = some expr → whole.borderRadius.get? tier = some expr
  role {role : String} {fonts : List String} :
    part.fontFamily.roles.get? role = some fonts → whole.fontFamily.roles.get? role = some fonts
  animation {name shorthand : String} :
    part.animation.shorthands.get? name = some shorthand →
      whole.animation.shorthands.get? name = some shorthand
  keyframes {name : String} {frames : Keyframes} :
    part.keyframes.blocks.get? name = some frames → whole.keyframes.blocks.get? name = some frames

/-- The tables of a set list the entries of two other sets, those of the lower one first. -/
structure Joins (base overlay whole : TokenSet) : Prop where
  colors : whole.colors.tokens.entries =
    base.colors.tokens.entries ++ overlay.colors.tokens.entries
  tiers : whole.borderRadius.tiers.entries =
    base.borderRadius.tiers.entries ++ overlay.borderRadius.tiers.entries
  roles : whole.fontFamily.roles.entries =
    base.fontFamily.roles.entries ++ overlay.fontFamily.roles.entries
  animation : whole.animation.shorthands.entries =
    base.animation.shorthands.entries ++ overlay.animation.shorthands.entries
  keyframes : whole.keyframes.blocks.entries =
    base.keyframes.blocks.entries ++ overlay.keyframes.blocks.entries

/-- Without a conflict, the layered set lists the tokens of both sets. -/
theorem joins_merge {baseName : String} {base overlay : TokenSet}
    (h : (conflicts baseName base overlay).errors = []) :
    Joins base overlay (base.merge overlay) := by
  simp only [conflicts, Diagnostics.errors_append_eq_nil_iff, errors_redefined_eq_nil_iff] at h
  obtain ⟨⟨⟨⟨⟨hcolors, htiers⟩, hroles⟩, hanimation⟩, hkeyframes⟩, -⟩ := h
  exact ⟨entries_mergeTables hcolors, entries_mergeTables htiers, entries_mergeTables hroles,
    entries_mergeTables hanimation, entries_mergeTables hkeyframes⟩

/-- The flat names of the layered set are those of the lower set, then those of the upper one. -/
theorem Joins.flatten {base overlay whole : TokenSet} (h : Joins base overlay whole) :
    whole.colors.flatten = base.colors.flatten ++ overlay.colors.flatten := by
  rw [ColorTokens.flatten, h.colors, List.flatMap_append]
  rfl

/-- With valid colors, both layers keep all their tokens. -/
theorem Joins.keptIn {base overlay whole : TokenSet} (h : Joins base overlay whole)
    (hvalid : whole.colors.Valid) : base.KeptIn whole ∧ overlay.KeptIn whole := by
  -- A flat name can be captured by another token; only validity rules that out.
  have hflat {name value : String} (hmem : (name, value) ∈ base.colors.flatten ∨
      (name, value) ∈ overlay.colors.flatten) : whole.colors.get? name = some value := by
    rw [hvalid.get?_eq_some_iff, h.flatten]
    exact List.mem_append.2 hmem
  constructor
  · exact
      { color := fun hget => (get?_of_entries_append h.colors).2 (.inl hget)
        flatName := fun hmem => hflat (.inl hmem)
        tier := fun hget => (get?_of_entries_append h.tiers).2 (.inl hget)
        role := fun hget => (get?_of_entries_append h.roles).2 (.inl hget)
        animation := fun hget => (get?_of_entries_append h.animation).2 (.inl hget)
        keyframes := fun hget => (get?_of_entries_append h.keyframes).2 (.inl hget) }
  · exact
      { color := fun hget => (get?_of_entries_append h.colors).2 (.inr hget)
        flatName := fun hmem => hflat (.inr hmem)
        tier := fun hget => (get?_of_entries_append h.tiers).2 (.inr hget)
        role := fun hget => (get?_of_entries_append h.roles).2 (.inr hget)
        animation := fun hget => (get?_of_entries_append h.animation).2 (.inr hget)
        keyframes := fun hget => (get?_of_entries_append h.keyframes).2 (.inr hget) }

/-- What a class finds in one set, it finds in another one too. -/
structure Answers (part whole : TokenSet) : Prop where
  color {name value : String} :
    part.colors.get? name = some value → whole.colors.get? name = some value
  tier {tier expr : String} :
    part.borderRadius.get? tier = some expr → whole.borderRadius.get? tier = some expr
  stack {role stack : String} :
    part.fontFamily.stack? role = some stack → whole.fontFamily.stack? role = some stack
  shorthand {name shorthand : String} :
    part.animation.shorthands.get? name = some shorthand →
      whole.animation.shorthands.get? name = some shorthand

theorem Answers.refl (s : TokenSet) : s.Answers s := ⟨id, id, id, id⟩

theorem KeptIn.answers {part whole : TokenSet} (h : part.KeptIn whole) : part.Answers whole where
  color := fun hget => h.flatName (ColorTokens.mem_flatten_of_get? hget)
  tier := h.tier
  stack := fun hstack => by
    obtain ⟨fonts, hfonts, rfl⟩ := Option.map_eq_some_iff.1 hstack
    rw [FontFamilies.stack?, h.role hfonts, Option.map_some]
  shorthand := h.animation

end TokenSet

/-! ## Classes -/

namespace Theme

/-- The variants in front of a class. -/
def variantsOf (text : String) : List String :=
  (splitOn ':' (trimBoth text.toList)).dropLast.map String.ofList

/-- What one computation succeeds with, another one succeeds with too. -/
def Follows {α : Type} (x y : Except ThemeError α) : Prop := ∀ a, x = .ok a → y = .ok a

theorem follows_bind {α β : Type} {x y : Except ThemeError α} (h : Follows x y)
    (f : α → Except ThemeError β) : Follows (x >>= f) (y >>= f) := by
  intro b hb
  cases x with
  | error e => simp [bind, Except.bind] at hb
  | ok a =>
    rw [h a rfl]
    exact hb

theorem follows_refl {α : Type} (x : Except ThemeError α) : Follows x x := fun _ h => h

theorem follows_error {α : Type} (e : ThemeError) (y : Except ThemeError α) :
    Follows (.error e) y := fun _ h => absurd h (by simp)

/-- A token that is found is found where it has the same value, whatever class names it. -/
theorem follows_tokenOr (className className' token : String) {found found' : Option String}
    (h : ∀ value, found = some value → found' = some value) :
    Follows (tokenOr className token found) (tokenOr className' token found') := by
  intro value hok
  cases found with
  | none => simp [tokenOr] at hok
  | some v =>
    rw [h v rfl]
    exact hok

/-- A color, with or without an opacity, is the same where the same tokens are found. -/
theorem follows_resolveColor {t u : Theme} (h : t.tokens.Answers u.tokens)
    (className className' : String) (rest : List Char) :
    Follows (t.resolveColor className rest) (u.resolveColor className' rest) := by
  unfold resolveColor
  cases splitOnce '/' rest with
  | none => exact follows_tokenOr _ _ _ fun _ => h.color
  | some cut =>
    obtain ⟨token, alpha⟩ := cut
    cases hpercent : Utility.percent? alpha with
    | none =>
      simp only [hpercent]
      exact follows_error _ _
    | some percent =>
      simp only [hpercent]
      exact follows_bind (follows_tokenOr _ _ _ fun _ => h.color) _

/-- The declaration of a base is the same where the same tokens are found, and the class it stands
in plays no part. -/
theorem follows_resolveBase {t u : Theme} (h : t.tokens.Answers u.tokens)
    (className className' : String) (base : List Char) :
    Follows (t.resolveBase className base) (u.resolveBase className' base) := by
  unfold resolveBase
  generalize (if base = "rounded".toList then some "DEFAULT".toList
    else dropStart? "rounded-".toList base) = tier?
  cases tier? with
  | some tier => exact follows_bind (follows_tokenOr _ _ _ fun _ => h.tier) _
  | none =>
    cases dropStart? "font-".toList base with
    | some role => exact follows_bind (follows_tokenOr _ _ _ fun _ => h.stack) _
    | none =>
      cases dropStart? "animate-".toList base with
      | some name => exact follows_bind (follows_tokenOr _ _ _ fun _ => h.shorthand) _
      | none =>
        cases colorUtility? base with
        | some found => exact follows_bind (follows_resolveColor h _ _ _) _
        | none => exact follows_error _ _

/-- Only the variant `dark` depends on how dark styles are switched on. -/
theorem foldlM_addVariant?_congr {mode mode' : DarkMode} {variants : List String}
    (h : "dark" ∈ variants → mode = mode') (u : Utility) :
    variants.foldlM (addVariant? mode) u = variants.foldlM (addVariant? mode') u := by
  induction variants generalizing u with
  | nil => rfl
  | cons variant rest ih =>
    have hstep : addVariant? mode u variant = addVariant? mode' u variant := by
      by_cases hdark : variant = "dark"
      · rw [h (by simp [hdark])]
      · simp only [addVariant?, if_neg hdark]
    simp only [List.foldlM_cons, hstep]
    congr 1
    funext next
    exact ih (fun hmem => h (List.mem_cons_of_mem _ hmem)) next

/-- A rule is the same where all tokens are kept, as long as dark styles are switched on in the
same way or play no part. -/
theorem follows_resolveUtility {t u : Theme} (h : t.tokens.KeptIn u.tokens) {text : String}
    (hdark : "dark" ∈ variantsOf text → t.effectiveDarkMode = u.effectiveDarkMode) :
    Follows (t.resolveUtility text) (u.resolveUtility text) := by
  unfold resolveUtility
  simp only
  split
  · exact follows_refl _
  · have hvariants (plain : Utility) := foldlM_addVariant?_congr hdark plain
    simp only [variantsOf] at hvariants
    simp only [hvariants]
    exact follows_bind (follows_resolveBase h.answers _ _ _) _

/-! ## Layered themes -/

/-- What a successful layering gives: the tokens of both themes, and the dark mode of the upper
one if it has any. -/
theorem of_merge {base overlay merged : Theme} (h : base.merge overlay = .ok merged) :
    TokenSet.Joins base.tokens overlay.tokens merged.tokens ∧
      merged.darkMode = overlay.darkMode.orElse fun _ => base.darkMode := by
  unfold merge at h
  simp only at h
  split at h
  · rename_i hok
    have hnone : (conflicts base overlay).errors = [] := by simpa [Diagnostics.isOk] using hok
    rw [conflicts, Diagnostics.errors_append_eq_nil_iff] at hnone
    cases h
    exact ⟨TokenSet.joins_merge hnone.2, rfl⟩
  · simp at h

/-- The colors of a theme without errors are valid. -/
theorem valid_colors {t : Theme} {vars : Option RootVariables}
    (h : (t.diagnostics vars).errors = []) : t.tokens.colors.Valid := by
  rw [← ColorTokens.errors_eq_nil_iff _ TokenSet.colorsField]
  simp only [diagnostics, TokenSet.diagnostics, Diagnostics.errors_append_eq_nil_iff] at h
  exact h.1.2.1.1.1.1.1

/-- Layering a theme on another one redefines no token: the flat names of the colors are those of
the lower theme and then those of the upper one, every token of either has its value, and what
the lower theme resolves stays as it is, classes with `dark` aside if the upper theme switches
dark styles on in a way of its own. -/
theorem merge_conservative {base overlay merged : Theme} (h : base.merge overlay = .ok merged)
    (hok : (merged.diagnostics none).errors = []) :
    merged.tokens.colors.flatten = base.tokens.colors.flatten ++ overlay.tokens.colors.flatten ∧
      base.tokens.KeptIn merged.tokens ∧ overlay.tokens.KeptIn merged.tokens ∧
      ∀ text rule, "dark" ∉ variantsOf text ∨ overlay.darkMode = none →
        base.resolveUtility text = .ok rule → merged.resolveUtility text = .ok rule := by
  obtain ⟨hjoins, hmode⟩ := of_merge h
  obtain ⟨hbase, hoverlay⟩ := hjoins.keptIn (valid_colors hok)
  refine ⟨hjoins.flatten, hbase, hoverlay, fun text rule hdark => ?_⟩
  apply follows_resolveUtility hbase
  intro hmem
  have hnone : overlay.darkMode = none := hdark.resolve_left fun hnot => hnot hmem
  rw [effectiveDarkMode, effectiveDarkMode, hmode, hnone]
  rfl

/-- A theme with a group of colors. -/
def lowerTheme : Theme where
  tokens.colors.tokens.entries :=
    [("muted", .group { default := some "#fff", foreground := some "#000" })]

/-- A theme that adds a color whose name starts like those of the group below. -/
def upperTheme : Theme where
  darkMode := some .media
  tokens.colors.tokens.entries := [("muted-b", .single "#123")]

/-- The second theme layered on the first one. -/
def layeredTheme : Theme where
  darkMode := some .media
  tokens.colors.tokens.entries :=
    [("muted", .group { default := some "#fff", foreground := some "#000" }),
      ("muted-b", .single "#123")]

theorem merge_conservative_muted : lowerTheme.merge upperTheme = .ok layeredTheme ∧
    (layeredTheme.diagnostics none).errors = [] ∧
    layeredTheme.tokens.colors.get? "muted-b" = some "#123" ∧
    layeredTheme.resolveUtility "hover:bg-muted" =
      .ok { selector := ".hover\\:bg-muted:hover",
            declarations := [("background-color", "#fff")] } := by
  have hmerge : lowerTheme.merge upperTheme = .ok layeredTheme := by
    rw [merge, if_pos (by decide +kernel)]
    rfl
  have hok : (layeredTheme.diagnostics none).errors = [] := by decide +kernel
  obtain ⟨-, -, hupper, hclass⟩ := merge_conservative hmerge hok
  refine ⟨hmerge, hok, hupper.flatName (by decide), ?_⟩
  exact hclass _ _ (.inl (by decide +kernel)) (by rfl)

end Theme

end DocSite
