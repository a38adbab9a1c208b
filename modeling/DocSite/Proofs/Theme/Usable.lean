import DocSite.Proofs.Theme.Layers
import DocSite.Proofs.Theme.Matcher
import DocSite.Proofs.Theme.RadiusOrder

/-!
# A theme without errors can be used

  The check of a theme and the functions that use it read the same texts again, each
  for itself. What the check accepts, none of them refuses: the globs make a
  matcher, the radii have sizes for every root, the values of colors are colors, the
  shorthands and the selectors of keyframes can be read, and no class fails because
  of a malformed color. One thing is taken for granted: that patterns which can be
  read one by one can be put into one set.
-/

namespace DocSite

open DocSite.Text

/-! ## Readers that succeed -/

/-- Each value of a list that was read comes from an item. -/
theorem exists_item_of_mem {α β : Type} {R : α → β → Prop} {items : List α} {values : List β}
    (h : List.Forall₂ R items values) : ∀ y ∈ values, ∃ x ∈ items, R x y := by
  induction h with
  | nil => simp
  | cons hxy _ ih =>
    intro z hz
    rcases List.mem_cons.1 hz with rfl | hz
    · exact ⟨_, List.mem_cons_self, hxy⟩
    · obtain ⟨x, hx, hxz⟩ := ih z hz
      exact ⟨x, List.mem_cons_of_mem _ hx, hxz⟩

/-! ## Content -/

/-- Patterns of a list that can be read one by one can be put into one set. -/
def ContentGlob.SetsBuild (globs : List ContentGlob) : Prop :=
  ∀ patterns : List (List Glob.Token),
    (∀ tokens ∈ patterns, ∃ g ∈ globs, g.compile = .ok tokens) →
      ∃ set, Glob.PatternSet.ofPatterns patterns = .ok set

/-- Only a pattern that is nested too deeply spoils a set. -/
theorem ContentGlob.setsBuild_of_shallow {globs : List ContentGlob}
    (h : ∀ g ∈ globs, ∀ tokens, g.compile = .ok tokens → Glob.isTooDeep tokens = false) :
    SetsBuild globs := by
  intro patterns hpatterns
  refine ⟨_, Glob.PatternSet.ofPatterns_eq_ok_iff.2 ⟨fun tokens htokens _ => ?_, rfl⟩⟩
  obtain ⟨g, hg, hcompile⟩ := hpatterns tokens htokens
  exact h g hg tokens hcompile

theorem ContentGlob.exists_compile {globs : List ContentGlob} {field : FieldPath}
    (h : (diagnostics globs field).errors = []) :
    ∀ g ∈ globs, ∃ tokens, g.compile = .ok tokens := by
  intro g hg
  rw [diagnostics, Diagnostics.errors_append_eq_nil_iff,
    Diagnostics.errors_forItems_eq_nil_iff] at h
  obtain ⟨i, hi⟩ := List.mem_iff_getElem?.1 hg
  have hcheck := h.2 i g hi
  cases hcompile : g.compile with
  | ok tokens => exact ⟨tokens, rfl⟩
  | error e => simp [check, hcompile] at hcheck

/-- Globs that can all be read make a matcher. -/
theorem ContentMatcher.exists_ofGlobs {globs : List ContentGlob}
    (h : ∀ g ∈ globs, ∃ tokens, g.compile = .ok tokens) (hsets : ContentGlob.SetsBuild globs) :
    ∃ matcher, ofGlobs globs = .ok matcher := by
  have hset (exclusion : Bool) : ∃ set, setOf (patternsOf exclusion globs) = .ok set := by
    have hpatterns : ∀ tokens ∈ patternsOf exclusion globs,
        ∃ g ∈ globs, g.compile = .ok tokens := by
      intro tokens htokens
      obtain ⟨g, hg, -, hcompile⟩ := mem_patternsOf.1 htokens
      exact ⟨g, hg, hcompile⟩
    obtain ⟨set, hbuilt⟩ := hsets _ hpatterns
    exact ⟨set, by rw [setOf, hbuilt]⟩
  obtain ⟨included, hincluded⟩ := hset false
  obtain ⟨excluded, hexcluded⟩ := hset true
  rw [ofGlobs_of_compile h]
  exact ⟨{ included, excluded }, make_eq_ok_iff.2 ⟨hincluded, hexcluded⟩⟩

/-! ## Radii -/

/-- A clamped double is not below zero, also if it is no number. -/
theorem Measure.zero_le_clamp (x : Binary64) :
    (Binary64.zero false).le (Measure.clamp x) = true := by
  have hzero : (Measure.zero : Binary64) = Binary64.zero false := by decide
  rw [Measure.clamp, hzero]
  by_cases hx : Measure.less (Binary64.zero false) x = true
  · have hlt : (Binary64.zero false).lt x = true := hx
    rw [if_pos hx, Binary64.le, hlt, Bool.true_or]
  · rw [if_neg hx]
    decide +kernel

/-- A scale that can be read gives a size for every tier, in the order of the tiers. -/
theorem RadiusScale.exists_resolve {α : Type} [Measure α] {scale : RadiusScale}
    (h : scale.Readable) (root : Length) :
    ∃ sizes : List (String × α), scale.resolve root = .ok sizes ∧
      sizes.map Prod.fst = scale.tiers.keys ∧
      ∀ size ∈ sizes, ∃ form : RadiusForm, size.2 = form.eval root := by
  -- Each entry can be read and gives a size.
  have hentries : ∀ e ∈ scale.tiers.entries, ∃ size : String × α,
      (do return (e.1, (← RadiusForm.parse e.2).eval root) : Except ThemeError _) = .ok size := by
    rintro ⟨tier, expr⟩ he
    obtain ⟨form, hform⟩ := h tier expr (Table.lookup_of_mem scale.tiers.nodup he)
    exact ⟨(tier, form.eval root), by rw [hform]; rfl⟩
  obtain ⟨sizes, hsizes⟩ := exists_mapM_eq_ok_iff.2 hentries
  have hall := mapM_eq_ok_iff.1 hsizes
  -- A size belongs to the tier that it was read from.
  have hsize (e : String × String) (size : String × α)
      (he : (do return (e.1, (← RadiusForm.parse e.2).eval root) : Except ThemeError _) =
        .ok size) : e.1 = size.1 ∧ ∃ form : RadiusForm, size.2 = form.eval root := by
    cases hform : RadiusForm.parse e.2 with
    | error why => simp [hform, bind, Except.bind] at he
    | ok form =>
      rw [hform] at he
      obtain rfl := Except.ok.inj he
      exact ⟨rfl, form, rfl⟩
  refine ⟨sizes, hsizes, ?_, ?_⟩
  · have hkeys : List.Forall₂ (· = ·) scale.tiers.keys (sizes.map Prod.fst) := by
      rw [Table.keys, List.forall₂_map_left_iff, List.forall₂_map_right_iff]
      exact hall.imp fun e size he => (hsize e size he).1
    exact (List.forall₂_eq_eq_eq ▸ hkeys).symm
  · intro size hmem
    obtain ⟨e, -, he⟩ := exists_item_of_mem hall size hmem
    exact (hsize e size he).2

/-! ## Colors, animations and keyframes -/

theorem Animations.exists_parse {animations : Animations} {field : FieldPath}
    {keyframes : KeyframeTable} (h : (animations.diagnostics field keyframes).errors = []) :
    ∀ e ∈ animations.shorthands.entries, ∃ animation, Animation.parse e.2 = .ok animation := by
  rintro ⟨name, shorthand⟩ he
  rw [diagnostics, Diagnostics.errors_concat, List.flatMap_eq_nil_iff] at h
  have hcheck := h _ (List.mem_map_of_mem he)
  cases hparse : Animation.parse shorthand with
  | ok animation => exact ⟨animation, rfl⟩
  | error e => simp [check, hparse] at hcheck

theorem KeyframeTable.exists_parseOffsets {table : KeyframeTable} {field : FieldPath}
    (h : (table.diagnostics field).errors = []) :
    ∀ block ∈ table.blocks.entries, ∀ step ∈ block.2.steps.entries,
      ∃ offsets, parseOffsets step.1 = .ok offsets := by
  rintro ⟨name, frames⟩ hblock ⟨selector, properties⟩ hstep
  rw [diagnostics, Diagnostics.errors_concat, List.flatMap_eq_nil_iff] at h
  have hframes := h _ (List.mem_map_of_mem hblock)
  simp only [Keyframes.diagnostics, Diagnostics.errors_append_eq_nil_iff,
    Diagnostics.errors_concat, List.flatMap_eq_nil_iff] at hframes
  have hcheck := hframes.2 _ (List.mem_map_of_mem hstep)
  cases hparse : parseOffsets selector with
  | ok offsets => exact ⟨offsets, rfl⟩
  | error e => simp [Keyframes.checkStep, hparse] at hcheck

/-- An offset in percent: no less than zero and no more than one hundred. -/
def IsOffset (x : Binary64) : Prop :=
  (Binary64.zero false).le x = true ∧ x.le (Binary64.ofInt 100) = true

instance (x : Binary64) : Decidable (IsOffset x) := inferInstanceAs (Decidable (_ ∧ _))

theorem isOffset_of_offset? {part : List Char} {x : Binary64} (h : offset? part = some x) :
    IsOffset x := by
  rw [offset?] at h
  split at h
  · obtain rfl := Option.some.inj h
    decide +kernel
  · split at h
    · obtain rfl := Option.some.inj h
      decide +kernel
    · obtain ⟨digits, -, h⟩ := Option.bind_eq_some_iff.1 h
      obtain ⟨y, -, h⟩ := Option.bind_eq_some_iff.1 h
      split at h
      · rename_i hrange
        obtain rfl := Option.some.inj h
        exact Bool.and_eq_true_iff.1 hrange
      · cases h

/-- A selector that can be read has at least one offset, and all of them are in range. -/
theorem isOffset_of_parseOffsets {selector : String} {offsets : List Binary64}
    (h : parseOffsets selector = .ok offsets) : offsets ≠ [] ∧ ∀ x ∈ offsets, IsOffset x := by
  rw [parseOffsets] at h
  split at h
  · rename_i found hfound
    obtain rfl := Except.ok.inj h
    constructor
    · obtain ⟨part, hpart⟩ := List.exists_mem_of_ne_nil _ (splitOn_ne_nil ',' selector.toList)
      obtain ⟨x, hx, -⟩ := exists_of_mapM hfound part hpart
      exact List.ne_nil_of_mem hx
    · exact forall_of_mapM (fun _ _ => isOffset_of_offset?) hfound
  · cases h

/-! ## Classes -/

namespace Theme

/-- A computation that does not fail because of a malformed color. -/
def NotMalformed {α : Type} (x : Except ThemeError α) : Prop :=
  ∀ value, x ≠ .error (.malformedColor value)

theorem notMalformed_ok {α : Type} (a : α) : NotMalformed (.ok a) := by
  intro value h
  cases h

theorem NotMalformed.bind {α β : Type} {x : Except ThemeError α} (hx : NotMalformed x)
    {f : α → Except ThemeError β} (hf : ∀ a, x = .ok a → NotMalformed (f a)) :
    NotMalformed (x >>= f) := by
  cases x with
  | error e =>
    intro value h
    exact hx value (by simpa [Bind.bind, Except.bind] using h)
  | ok a => exact hf a rfl

theorem notMalformed_tokenOr (className token : String) (found : Option String) :
    NotMalformed (tokenOr className token found) := by
  cases found with
  | none =>
    intro value h
    cases h
  | some v => exact notMalformed_ok v

theorem eq_some_of_tokenOr {className token value : String} {found : Option String}
    (h : tokenOr className token found = .ok value) : found = some value := by
  cases found with
  | none => cases h
  | some v => rw [Except.ok.inj h]

theorem notMalformed_withAlpha {value : String} (h : Color.IsColor value) (percent : Nat) :
    NotMalformed (Color.withAlpha value percent) := by
  obtain ⟨kind, hkind⟩ := ColorTokens.kind_eq_ok_iff.2 h
  rw [Color.withAlpha, hkind]
  intro text
  cases kind <;> simp [Bind.bind, Except.bind]

/-- With valid colors, an opacity is only ever put on a color. -/
theorem notMalformed_resolveColor {t : Theme} (h : t.tokens.colors.Valid) (className : String)
    (rest : List Char) : NotMalformed (t.resolveColor className rest) := by
  rw [resolveColor]
  cases splitOnce '/' rest with
  | none => exact notMalformed_tokenOr _ _ _
  | some cut =>
    -- Without an opacity nothing is put on a color.
    obtain ⟨token, alpha⟩ := cut
    cases hpercent : Utility.percent? alpha with
    | none =>
      intro value
      simp [hpercent]
    | some percent =>
      simp only [hpercent]
      apply (notMalformed_tokenOr _ _ _).bind
      intro value hvalue
      have hget := eq_some_of_tokenOr hvalue
      -- The token is listed, so its value is a color.
      have hcolor : Color.IsColor value :=
        h.isColor (String.ofList token, value) (ColorTokens.mem_flatten_of_get? hget)
      exact notMalformed_withAlpha hcolor percent

theorem notMalformed_resolveBase {t : Theme} (h : t.tokens.colors.Valid) (className : String)
    (base : List Char) : NotMalformed (t.resolveBase className base) := by
  -- A declaration only adds the property to what was found.
  have hpair (property : String) {x : Except ThemeError String} (hx : NotMalformed x) :
      NotMalformed (do return (property, ← x)) := hx.bind fun a _ => notMalformed_ok (property, a)
  unfold resolveBase
  generalize (if base = "rounded".toList then some "DEFAULT".toList
    else dropStart? "rounded-".toList base) = tier?
  cases tier? with
  | some tier => exact hpair _ (notMalformed_tokenOr _ _ _)
  | none =>
    cases dropStart? "font-".toList base with
    | some role => exact hpair _ (notMalformed_tokenOr _ _ _)
    | none =>
      cases dropStart? "animate-".toList base with
      | some name => exact hpair _ (notMalformed_tokenOr _ _ _)
      | none =>
        cases colorUtility? base with
        | some found => exact hpair _ (notMalformed_resolveColor h _ _)
        | none =>
          intro value hvalue
          cases hvalue

theorem notMalformed_resolveUtility {t : Theme} (h : t.tokens.colors.Valid) (text : String) :
    NotMalformed (t.resolveUtility text) := by
  rw [resolveUtility]
  simp only
  split
  · intro value hvalue
    cases hvalue
  · apply (notMalformed_resolveBase h _ _).bind
    intro declaration _
    split
    · exact notMalformed_ok _
    · intro value hvalue
      cases hvalue

/-! ## Themes -/

/-- Nothing that is derived from a theme fails. -/
structure Usable (t : Theme) : Prop where
  /-- The content globs make a matcher. -/
  matcher : ContentGlob.SetsBuild t.content → ∃ matcher, t.contentMatcher = .ok matcher
  /-- Every radius has a size, in the order of the tiers and not below zero. -/
  radii (vars : Option RootVariables) : ∃ sizes, t.radiusPx Binary64 vars = .ok sizes ∧
    sizes.map Prod.fst = t.tokens.borderRadius.tiers.keys ∧
    ∀ size ∈ sizes, (Binary64.zero false).le size.2 = true
  /-- Every flat name stands for a color. -/
  colors : ∀ e ∈ t.tokens.colors.flatten, ∃ kind, Color.kind e.2 = .ok kind
  /-- Every shorthand can be read. -/
  animations : ∀ e ∈ t.tokens.animation.shorthands.entries,
    ∃ animation, Animation.parse e.2 = .ok animation
  /-- Every selector of a step can be read, as one offset or more. -/
  keyframes : ∀ block ∈ t.tokens.keyframes.blocks.entries, ∀ step ∈ block.2.steps.entries,
    ∃ offsets, parseOffsets step.1 = .ok offsets ∧ offsets ≠ [] ∧ ∀ x ∈ offsets, IsOffset x
  /-- No class fails because of a malformed color. -/
  classes (text value : String) : t.resolveUtility text ≠ .error (.malformedColor value)

/-- A theme that passes its check can be used. -/
theorem usable_of_no_errors (t : Theme) (vars : Option RootVariables)
    (hok : (t.diagnostics vars).errors = []) : t.Usable := by
  have hvalid : t.tokens.colors.Valid := valid_colors hok
  -- Each part of the check makes its part of the theme usable.
  simp only [diagnostics, Diagnostics.errors_append_eq_nil_iff] at hok
  obtain ⟨⟨⟨⟨hcontent, -⟩, -⟩, htokens⟩, -⟩ := hok
  simp only [TokenSet.diagnostics, Diagnostics.errors_append_eq_nil_iff] at htokens
  obtain ⟨⟨⟨⟨⟨-, hradii⟩, -⟩, hkeyframes⟩, hanimations⟩, -⟩ := htokens
  constructor
  case matcher => exact ContentMatcher.exists_ofGlobs (ContentGlob.exists_compile hcontent)
  case radii =>
    intro vars
    obtain ⟨sizes, hsizes, hkeys, hforms⟩ := RadiusScale.exists_resolve
      (α := Binary64) (RadiusScale.readable_of_no_errors hradii) (rootLength vars)
    refine ⟨sizes, hsizes, hkeys, ?_⟩
    intro size hsize
    obtain ⟨form, hform⟩ := hforms size hsize
    rw [hform]
    -- Both forms are kept between zero and the largest size.
    cases form <;> exact Measure.zero_le_clamp _
  case colors =>
    intro e he
    exact ColorTokens.kind_eq_ok_iff.2 (hvalid.isColor e he)
  case animations => exact Animations.exists_parse hanimations
  case keyframes =>
    intro block hblock step hstep
    obtain ⟨offsets, hoffsets⟩ :=
      KeyframeTable.exists_parseOffsets hkeyframes block hblock step hstep
    exact ⟨offsets, hoffsets, isOffset_of_parseOffsets hoffsets⟩
  case classes =>
    intro text
    exact notMalformed_resolveUtility hvalid text

/-- A theme with something in every table. -/
def fullTheme : Theme where
  content := [⟨"./src/**/*.\x7bhtml,md\x7d"⟩, ⟨"!**/drafts/**"⟩]
  tokens.colors.tokens.entries :=
    [("primary", .group
        { default := some "hsl(var(--primary))", foreground := some "hsl(var(--ink) / 80%)" }),
      ("paper", .single "#fff")]
  tokens.borderRadius.tiers.entries :=
    [("lg", "var(--radius)"), ("sm", "calc(var(--radius) - 12px)")]
  tokens.animation.shorthands.entries := [("spin", "turn 1s linear infinite")]
  tokens.keyframes.blocks.entries :=
    [("turn", ⟨[("from, 50.5%", ⟨[("opacity", .text "0")], by simp⟩)], by simp⟩)]

theorem setsBuild_fullTheme : ContentGlob.SetsBuild fullTheme.content := by
  apply ContentGlob.setsBuild_of_shallow
  intro g hg tokens hcompile
  have hshallow : ∀ g ∈ fullTheme.content, (g.compile.map Glob.isTooDeep).toOption ≠ some true := by
    decide +kernel
  have hg' := hshallow g hg
  rw [hcompile] at hg'
  simpa [Except.map, Except.toOption] using hg'

theorem usable_of_no_errors_full : (fullTheme.diagnostics none).errors = [] ∧
    (∃ matcher, fullTheme.contentMatcher = .ok matcher) ∧
    (∃ sizes, fullTheme.radiusPx Binary64 none = .ok sizes ∧
      sizes.map Prod.fst = ["lg", "sm"] ∧
      ∀ size ∈ sizes, (Binary64.zero false).le size.2 = true) ∧
    (∃ animation, Animation.parse "turn 1s linear infinite" = .ok animation) ∧
    ∀ value, fullTheme.resolveUtility "bg-paper/50" ≠ .error (.malformedColor value) := by
  have hok : (fullTheme.diagnostics none).errors = [] := by decide +kernel
  have husable := usable_of_no_errors fullTheme none hok
  exact ⟨hok, husable.matcher setsBuild_fullTheme, husable.radii none,
    husable.animations ("spin", "turn 1s linear infinite") (by simp [fullTheme]),
    husable.classes "bg-paper/50"⟩

end Theme

end DocSite
