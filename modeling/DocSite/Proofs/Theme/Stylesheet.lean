import DocSite.Proofs.Theme.Variants
import DocSite.Theme.Export

/-!
# The stylesheet and the resolver of classes

  The stylesheet of a theme has a rule for each radius, font and animation. The class
  of such a rule can also be resolved. The stylesheet writes a class as it is; the
  resolver trims it, cuts it at colons and escapes it. So the two give one rule to the
  classes that none of these changes, and only to them.
-/

namespace DocSite

open DocSite.Text

namespace Theme

open Utility

/-! ## The classes of the stylesheet -/

/-- The theme has a class with this declaration: a radius, a font or an animation. -/
inductive Styles (t : Theme) : String → String → String → Prop where
  | radius {tier expr : String} : (tier, expr) ∈ t.tokens.borderRadius.tiers.entries →
      Styles t (radiusClass tier) "border-radius" expr
  | font {role : String} {fonts : List String} :
      (role, fonts) ∈ t.tokens.fontFamily.roles.entries →
      Styles t ("font-" ++ role) "font-family" (FontFamilies.stackOf fonts)
  | animation {name shorthand : String} :
      (name, shorthand) ∈ t.tokens.animation.shorthands.entries →
      Styles t ("animate-" ++ name) "animation" shorthand

/-- A class that stays as it is when it is resolved. -/
structure IsVerbatim (cls : String) : Prop where
  /-- A selector has no need to escape a character of it. -/
  unescaped : ∀ c ∈ cls.toList, needsEscape c = false
  /-- No blank is trimmed at its end. -/
  trimmed : ∀ c ∈ cls.toList.getLast?, isBlank c = false

instance (cls : String) : Decidable (IsVerbatim cls) :=
  decidable_of_iff
    ((cls.toList.all fun c => !needsEscape c) ∧ cls.toList.getLast?.toList.all fun c => !isBlank c)
    ⟨fun h => ⟨by simpa using h.1, by simpa using h.2⟩,
      fun h => ⟨by simpa using h.unescaped, by simpa using h.trimmed⟩⟩

/-- The rule of a class with one declaration. -/
def ruleOf (cls property value : String) : Utility where
  selector := "." ++ cls
  declarations := [(property, value)]

/-- What stands before the name of a radius, a font or an animation in its class. -/
def nameStarts : List String := ["rounded-", "font-", "animate-"]

variable {t : Theme} {cls property value : String}

/-- A class is the one of the default radius, or a name behind its start. -/
theorem Styles.cls_eq (h : t.Styles cls property value) :
    cls = "rounded" ∨ ∃ start ∈ nameStarts, ∃ name, cls = start ++ name := by
  cases h with
  | @radius tier _ _ =>
    by_cases hdefault : tier = "DEFAULT"
    · exact .inl (if_pos hdefault)
    · exact .inr ⟨"rounded-", by simp [nameStarts], tier, if_neg hdefault⟩
  | font _ => exact .inr ⟨"font-", by simp [nameStarts], _, rfl⟩
  | animation _ => exact .inr ⟨"animate-", by simp [nameStarts], _, rfl⟩

theorem nameStarts_chars : ∀ start ∈ nameStarts,
    start.toList ≠ [] ∧ ∀ c ∈ start.toList, c ≠ ':' ∧ isBlank c = false := by
  have h : nameStarts.all (fun start => !start.toList.isEmpty &&
      start.toList.all fun c => c != ':' && !isBlank c) = true := by decide
  simpa only [List.all_eq_true, Bool.and_eq_true, Bool.not_eq_true', List.isEmpty_eq_false_iff,
    bne_iff_ne] using h

theorem Styles.head_not_blank (h : t.Styles cls property value) :
    ∀ c ∈ cls.toList.head?, isBlank c = false := by
  intro c hc
  rcases h.cls_eq with rfl | ⟨start, hstart, name, rfl⟩
  · obtain rfl : 'r' = c := by simpa using hc
    decide
  · obtain ⟨hne, hchars⟩ := nameStarts_chars start hstart
    rw [String.toList_append, List.head?_append_of_ne_nil _ hne] at hc
    exact (hchars c (List.mem_of_mem_head? hc)).2

/-! ## Escaping -/

theorem escapeClass_eq_self_iff {cs : List Char} :
    escapeClass cs = cs ↔ ∀ c ∈ cs, needsEscape c = false := by
  induction cs with
  | nil => simp [escapeClass]
  | cons c cs ih =>
    have hcons : escapeClass (c :: cs) =
        (if needsEscape c then ['\\', c] else [c]) ++ escapeClass cs := rfl
    by_cases hc : needsEscape c = true
    · -- An escaped character comes behind a backslash, which is not escaped itself.
      have hslash : '\\' ≠ c := by
        rintro rfl
        exact absurd hc (by decide)
      simp [hcons, hc, hslash]
    · rw [Bool.not_eq_true] at hc
      simp [hcons, hc, ih]

theorem getLast?_escapeClass (cs : List Char) : (escapeClass cs).getLast? = cs.getLast? := by
  induction cs using List.reverseRecOn with
  | nil => rfl
  | append_singleton cs c _ =>
    have happend : escapeClass (cs ++ [c]) =
        escapeClass cs ++ if needsEscape c then ['\\', c] else [c] := by
      simp [escapeClass]
    rw [happend]
    split <;> simp

/-! ## Resolving the classes of the stylesheet -/

/-- The declaration of a class is found behind its start. -/
theorem resolveBase_of_styles (h : t.Styles cls property value) (className : String) :
    t.resolveBase className cls.toList = .ok (property, value) := by
  cases h with
  | @radius tier _ hmem =>
    have hget := (Table.get?_eq_some_iff _).2 hmem
    unfold radiusClass
    split
    · rename_i hdefault
      subst hdefault
      simp [resolveBase, RadiusScale.get?, hget, tokenOr]
    · simp [resolveBase, dropStart?, RadiusScale.get?, hget, tokenOr]
  | font hmem =>
    have hget := (Table.get?_eq_some_iff _).2 hmem
    simp [resolveBase, dropStart?, FontFamilies.stack?, hget, tokenOr]
  | animation hmem =>
    have hget := (Table.get?_eq_some_iff _).2 hmem
    simp [resolveBase, dropStart?, hget, tokenOr]

theorem resolveUtility_trimBoth (t : Theme) (text : String) :
    t.resolveUtility (String.ofList (trimBoth text.toList)) = t.resolveUtility text := by
  simp only [resolveUtility, String.toList_ofList, trimBoth_trimBoth]

/-- No variant begins like a class. -/
theorem not_isVariant {start : String} (hstart : start ∈ nameStarts) (rest : List Char) :
    ¬IsVariant (String.ofList (start.toList ++ rest)) := by
  -- The names of the variants are few, and none of them begins so.
  have hnames : ∀ start ∈ nameStarts, ∀ variant ∈ "dark" :: pseudoVariants.map Prod.fst,
      dropStart? start.toList variant.toList = none := by decide
  intro hvariant
  have hnone := hnames start hstart _ (List.mem_cons.2 hvariant)
  rw [String.toList_ofList, dropStart?_eq_some_iff.2 rfl] at hnone
  simp at hnone

/-- A class whose first variant is not known is not resolved. -/
theorem resolveUtility_ne_ok {text : String} {variant : List Char} {rest : List (List Char)}
    (hsplit : splitOn ':' (trimBoth text.toList) = variant :: rest) (hrest : rest ≠ [])
    (hunknown : ¬IsVariant (String.ofList variant)) (u : Utility) :
    t.resolveUtility text ≠ .ok u := by
  intro hok
  simp only [resolveUtility, hsplit, List.dropLast_cons_of_ne_nil hrest, List.map_cons,
    foldlM_addVariant?, List.forall_mem_cons, hunknown, false_and, if_false] at hok
  split at hok
  · simp at hok
  · simp only [bind, Except.bind] at hok
    split at hok <;> simp at hok

/-- A colon in a name makes a variant of what stands before it, and there is no such variant. -/
theorem Styles.resolveUtility_ne_ok (h : t.Styles cls property value) (hcolon : ':' ∈ cls.toList)
    (u : Utility) : t.resolveUtility cls ≠ .ok u := by
  rcases h.cls_eq with rfl | ⟨start, hstart, name, rfl⟩
  · exact absurd hcolon (by decide)
  · have hfree : ':' ∉ start.toList := fun hc => ((nameStarts_chars start hstart).2 ':' hc).1 rfl
    rw [String.toList_append, List.mem_append, or_iff_right hfree] at hcolon
    obtain ⟨front, back, hname, hfront⟩ := List.eq_append_cons_of_mem hcolon
    have hcls : (start ++ name).toList = (start.toList ++ front) ++ ':' :: back := by
      simp [hname]
    obtain ⟨rest, htrim⟩ := exists_trimBoth_append_cons (hcls ▸ h.head_not_blank) (by decide)
    have hsplit : splitOn ':' (trimBoth (start ++ name).toList) =
        (start.toList ++ front) :: splitOn ':' rest := by
      rw [hcls, htrim, splitOn_append]
      simp [hfree, hfront]
    exact Theme.resolveUtility_ne_ok hsplit (splitOn_ne_nil ':' rest)
      (not_isVariant hstart front) u

/-- The selector of a class without variants is the trimmed class, escaped. -/
theorem selector_of_resolveUtility {text : String} (hcolon : ':' ∉ text.toList) {u : Utility}
    (hok : t.resolveUtility text = .ok u) :
    u.selector = String.ofList ('.' :: escapeClass (trimBoth text.toList)) := by
  have hfree : ':' ∉ trimBoth text.toList := by
    obtain ⟨front, back, -, -, htext⟩ := exists_trimBoth text.toList
    intro hc
    exact hcolon (htext ▸ by simp [hc])
  rw [← resolveUtility_trimBoth, resolveUtility_plain t (by simp [trimBoth_trimBoth])
    (by simpa using hfree), String.toList_ofList] at hok
  cases hbase : t.resolveBase (String.ofList (trimBoth text.toList)) (trimBoth text.toList) with
  | error e =>
    rw [hbase] at hok
    simp [Except.map] at hok
  | ok declaration =>
    rw [hbase] at hok
    rw [← Except.ok.inj hok]

/-- A class of the stylesheet is resolved to the rule that is written there just when it stays as
it is. -/
theorem resolveUtility_eq_ruleOf_iff (h : t.Styles cls property value) :
    t.resolveUtility cls = .ok (ruleOf cls property value) ↔ IsVerbatim cls := by
  constructor
  · intro hok
    have hcolon : ':' ∉ cls.toList := fun hc => h.resolveUtility_ne_ok hc _ hok
    -- The selector is the escaped class, which has to be the class itself.
    have hescape : escapeClass (trimBoth cls.toList) = cls.toList := by
      have hselector := congrArg String.toList (selector_of_resolveUtility hcolon hok)
      simpa [ruleOf] using hselector.symm
    -- Escaping puts nothing at the end, so the class ends like the trimmed one.
    have hlast : ∀ c ∈ cls.toList.getLast?, isBlank c = false := by
      rw [← hescape, getLast?_escapeClass]
      exact (ends_trimBoth cls.toList).2
    rw [trimBoth_of_ends h.head_not_blank hlast] at hescape
    exact ⟨escapeClass_eq_self_iff.1 hescape, hlast⟩
  · intro hverbatim
    have htrim := trimBoth_of_ends h.head_not_blank hverbatim.trimmed
    have hcolon : ':' ∉ cls.toList := by
      intro hc
      exact absurd (hverbatim.unescaped ':' hc) (by decide)
    rw [resolveUtility_plain t htrim hcolon, resolveBase_of_styles h,
      escapeClass_eq_self_iff.2 hverbatim.unescaped]
    simp [Except.map, ruleOf]

/-! ## Rules in a stylesheet -/

/-- A text after which a line begins. -/
def EndsLine (s : String) : Prop := ∀ c ∈ s.toList.getLast?, c = '\n'

theorem EndsLine.append {a b : String} (ha : EndsLine a) (hb : EndsLine b) : EndsLine (a ++ b) := by
  intro c hc
  rw [String.toList_append, List.getLast?_append] at hc
  rcases Option.or_eq_some_iff.1 hc with hc | ⟨-, hc⟩
  · exact hb c hc
  · exact ha c hc

theorem EndsLine.behind {b : String} (hb : EndsLine b) (hne : b ≠ "") (a : String) :
    EndsLine (a ++ b) := by
  have hchars : b.toList ≠ [] := by simpa using hne
  intro c hc
  rw [String.toList_append, List.getLast?_append_of_ne_nil _ hchars] at hc
  exact hb c hc

theorem endsLine_newline (s : String) : EndsLine (s ++ "\n") :=
  EndsLine.behind (by simp [EndsLine]) (by simp) s

/-- A rule stands in a stylesheet, from the start of a line. -/
def HasRule (css rule : String) : Prop := ∃ front back, EndsLine front ∧ css = front ++ rule ++ back

theorem HasRule.append {css rule : String} (h : HasRule css rule) (more : String) :
    HasRule (css ++ more) rule := by
  obtain ⟨front, back, hfront, rfl⟩ := h
  exact ⟨front, back ++ more, hfront, by simp [String.append_assoc]⟩

theorem HasRule.after {css rule before : String} (h : HasRule css rule) (hbefore : EndsLine before) :
    HasRule (before ++ css) rule := by
  obtain ⟨front, back, hfront, rfl⟩ := h
  exact ⟨before ++ front, back, hbefore.append hfront, by simp [String.append_assoc]⟩

/-! ### Rules one after the other -/

section rules
variable {α : Type} {rule : α → String}

theorem endsLine_join (hrule : ∀ x, EndsLine (rule x)) (xs : List α) :
    EndsLine (String.join (xs.map rule)) := by
  induction xs with
  | nil => simp [EndsLine]
  | cons x xs ih =>
    rw [List.map_cons, String.join_cons]
    exact (hrule x).append ih

theorem hasRule_join (hrule : ∀ x, EndsLine (rule x)) {xs : List α} {x : α} (hx : x ∈ xs) :
    HasRule (String.join (xs.map rule)) (rule x) := by
  obtain ⟨before, after, rfl⟩ := List.append_of_mem hx
  refine ⟨String.join (before.map rule), String.join (after.map rule), ?_, ?_⟩
  · exact endsLine_join hrule before
  · simp [String.append_assoc]

end rules

theorem endsLine_classRule (cls property value note : String) :
    EndsLine (classRule cls property value note) :=
  EndsLine.behind (by simp [EndsLine]) (by simp) _

theorem endsLine_keyframes (frames : Keyframes) (name : String) :
    EndsLine ("\n" ++ frames.toCss name) := by
  have hcss : EndsLine (frames.toCss name) := EndsLine.behind (by simp [EndsLine]) (by simp) _
  exact (endsLine_newline "").append hcss

/-! ### The rules of a theme -/

theorem endsLine_fontCss (t : Theme) : EndsLine t.fontCss :=
  endsLine_join (fun _ => endsLine_classRule _ _ _ _) _

theorem endsLine_radiusCss (t : Theme) (vars : Option RootVariables) :
    EndsLine (t.radiusCss vars) :=
  endsLine_join (fun _ => endsLine_classRule _ _ _ _) _

/-- The rule of a class stands in the stylesheet, perhaps with the pixels of a radius. -/
theorem Styles.hasRule (h : t.Styles cls property value) (vars : Option RootVariables) :
    ∃ px, HasRule (t.toCss vars) (classRule cls property value (pxNote px)) := by
  have hcontainer : EndsLine ((t.container.map fun c => c.toCss ++ "\n").getD "") := by
    cases t.container with
    | none => simp [EndsLine]
    | some c => exact endsLine_newline c.toCss
  have hfonts := hcontainer.append t.endsLine_fontCss
  have hradii := hfonts.append (t.endsLine_radiusCss vars)
  -- Whatever comes before the rule ends its line.
  unfold toCss
  cases h with
  | radius hmem =>
    -- Behind the rule stands the rest of the stylesheet, in front of it what comes earlier.
    have hrule := hasRule_join (fun e : String × String =>
      endsLine_classRule (radiusClass e.1) "border-radius" e.2
        (pxNote (Table.lookup e.1 ((t.radiusPx Binary64 vars).toOption.getD [])))) hmem
    exact ⟨_, ((hrule.after hfonts).append _).append _⟩
  | font hmem =>
    have hrule := hasRule_join (fun e : String × List String =>
      endsLine_classRule ("font-" ++ e.1) "font-family" (FontFamilies.stackOf e.2)
        (pxNote none)) hmem
    exact ⟨_, (((hrule.after hcontainer).append _).append _).append _⟩
  | animation hmem =>
    have hrule := hasRule_join (fun e : String × String =>
      endsLine_classRule ("animate-" ++ e.1) "animation" e.2 (pxNote none)) hmem
    -- The blocks of keyframes come before the rules of the animations.
    have hblocks := endsLine_join (fun e : String × Keyframes => endsLine_keyframes e.2 e.1)
      t.tokens.keyframes.blocks.entries
    exact ⟨_, ((hrule.after hblocks).after hradii).append _⟩

/-! ## The two agree -/

/-- The rule of a utility with one declaration stands in a stylesheet, perhaps with a note of
pixels behind the declaration. -/
def StandsIn (u : Utility) (css : String) : Prop :=
  ∃ property value px, u.declarations = [(property, value)] ∧
    HasRule css (u.selector ++ " \x7b\n  " ++ property ++ ": " ++ value ++ ";" ++ pxNote px ++
      "\n\x7d\n")

/-- The stylesheet has the rule of each radius, font and animation, and their classes are resolved
to just these rules if and only if they stay as they are. -/
theorem stylesheet_agrees (t : Theme) (vars : Option RootVariables) {cls property value : String}
    (h : t.Styles cls property value) :
    StandsIn (ruleOf cls property value) (t.toCss vars) ∧
      (t.resolveUtility cls = .ok (ruleOf cls property value) ↔ IsVerbatim cls) := by
  obtain ⟨px, hrule⟩ := h.hasRule vars
  exact ⟨⟨property, value, px, rfl, hrule⟩, resolveUtility_eq_ruleOf_iff h⟩

/-- A theme with two radii, a font and an animation with its keyframes. -/
def styledTheme : Theme where
  tokens :=
    { borderRadius := ⟨⟨[("DEFAULT", "6px"), ("lg", "8px")], by simp⟩⟩
      fontFamily := ⟨⟨[("sans", ["Inter", "Noto Sans", "sans-serif"])], by simp⟩⟩
      animation := ⟨⟨[("appear", "fade-in 0.2s ease-out")], by simp⟩⟩
      keyframes := ⟨⟨[("fade-in", ⟨⟨[("from", ⟨[("opacity", .integer 0)], by simp⟩),
        ("to", ⟨[("opacity", .integer 1)], by simp⟩)], by simp⟩⟩)], by simp⟩⟩ }

/-- The classes of that theme with their declarations. -/
def styledRules : List (String × String × String) :=
  [("rounded", "border-radius", "6px"), ("rounded-lg", "border-radius", "8px"),
    ("font-sans", "font-family", "Inter, \"Noto Sans\", sans-serif"),
    ("animate-appear", "animation", "fade-in 0.2s ease-out")]

theorem stylesheet_agrees_every_kind : (styledTheme.diagnostics none).errors = [] ∧
    ∀ r ∈ styledRules, StandsIn (ruleOf r.1 r.2.1 r.2.2) (styledTheme.toCss none) ∧
      styledTheme.resolveUtility r.1 = .ok (ruleOf r.1 r.2.1 r.2.2) := by
  have hdefault : styledTheme.Styles "rounded" "border-radius" "6px" :=
    @Styles.radius _ "DEFAULT" _ (by simp [styledTheme])
  have hradius : styledTheme.Styles "rounded-lg" "border-radius" "8px" :=
    @Styles.radius _ "lg" _ (by simp [styledTheme])
  have hfont : styledTheme.Styles "font-sans" "font-family" "Inter, \"Noto Sans\", sans-serif" :=
    @Styles.font _ "sans" ["Inter", "Noto Sans", "sans-serif"] (by simp [styledTheme])
  have hanimation : styledTheme.Styles "animate-appear" "animation" "fade-in 0.2s ease-out" :=
    @Styles.animation _ "appear" _ (by simp [styledTheme])
  have hstyles : ∀ r ∈ styledRules, styledTheme.Styles r.1 r.2.1 r.2.2 := by
    simpa [styledRules] using ⟨hdefault, hradius, hfont, hanimation⟩
  have hverbatim : ∀ r ∈ styledRules, IsVerbatim r.1 := by decide +kernel
  refine ⟨by decide +kernel, fun r hr => ?_⟩
  obtain ⟨hrule, hresolve⟩ := stylesheet_agrees styledTheme none (hstyles r hr)
  exact ⟨hrule, hresolve.2 (hverbatim r hr)⟩

/-- A theme with a point in the name of a radius. -/
def pointedTheme : Theme where
  tokens := { borderRadius := ⟨⟨[("1.5", "6px")], by simp⟩⟩ }

/-- The class of that radius is resolved to a rule that its stylesheet does not have. -/
theorem stylesheet_misses_pointed : (pointedTheme.diagnostics none).errors = [] ∧
    pointedTheme.Styles "rounded-1.5" "border-radius" "6px" ∧
    ∃ u, pointedTheme.resolveUtility "rounded-1.5" = .ok u ∧
      ¬StandsIn u (pointedTheme.toCss none) := by
  refine ⟨by decide +kernel, @Styles.radius _ "1.5" _ (by simp [pointedTheme]),
    { selector := ".rounded-1\\.5", declarations := [("border-radius", "6px")] },
    by decide +kernel, ?_⟩
  rintro ⟨property, value, px, -, front, back, -, hcss⟩
  -- There is no backslash in the stylesheet.
  have hslash : '\\' ∉ (pointedTheme.toCss none).toList := by decide +kernel
  apply hslash
  rw [hcss]
  simp

end Theme

end DocSite
