import DocSite.Proofs.Diagnostics
import DocSite.Proofs.Theme.References
import DocSite.Theme.Config

/-!
# References of a theme are sound

  A theme that is checked against a stylesheet reads only variables that the
  stylesheet declares, and its animations use only keyframes that it defines. A
  value that does not is reported at its own place: either the variable is
  missing, or the value could not be read at all and no variable was looked for.
-/

namespace DocSite

open DocSite.Text

/-! ## Places of errors -/

namespace Diagnostics

/-- An error is reported at a place. -/
def ErrorAt (d : Diagnostics) (place : FieldPath) : Prop := ∃ e ∈ d.errors, e.field = place

theorem errorAt_error (place : FieldPath) (message : String) :
    (error place message).ErrorAt place :=
  ⟨_, List.mem_singleton_self _, rfl⟩

theorem errorAt_errorWithHint (place : FieldPath) (message hint : String) :
    (errorWithHint place message hint).ErrorAt place :=
  ⟨_, List.mem_singleton_self _, rfl⟩

theorem errorAt_append {a b : Diagnostics} {place : FieldPath} :
    (a ++ b).ErrorAt place ↔ a.ErrorAt place ∨ b.ErrorAt place := by
  simp only [ErrorAt, errors_append, List.mem_append, or_and_right, exists_or]

theorem ErrorAt.concat {d : Diagnostics} {place : FieldPath} (h : d.ErrorAt place)
    {ds : List Diagnostics} (hmem : d ∈ ds) : (concat ds).ErrorAt place := by
  obtain ⟨e, he, hfield⟩ := h
  refine ⟨e, ?_, hfield⟩
  rw [errors_concat]
  exact List.mem_flatMap.2 ⟨d, hmem, he⟩

end Diagnostics

/-! ## Texts of tokens -/

/-- A node has a text below it, at the end of a path of keys. -/
inductive StyleNode.HasText : StyleNode → List String → String → Prop
  | value {v : Css.Value} {text : String} (h : v.asText? = some text) : HasText (.value v) [] text
  | rule {nodes : List (String × StyleNode)} {key : String} {node : StyleNode}
      {path : List String} {text : String} (hmem : (key, node) ∈ nodes)
      (h : HasText node path text) : HasText (.rule nodes) (key :: path) text

namespace TokenSet

/-- The texts of a token set that may read root variables, with their places. -/
inductive TextAt (tokens : TokenSet) : FieldPath → String → Prop
  | color {name value : String} (h : (name, .single value) ∈ tokens.colors.tokens.entries) :
      TextAt tokens (colorsField.key name) value
  | variant {name key value : String} {g : ColorGroup}
      (hgroup : (name, .group g) ∈ tokens.colors.tokens.entries)
      (h : (key, value) ∈ g.variants) : TextAt tokens ((colorsField.key name).key key) value
  | radius {tier expr : String} (h : (tier, expr) ∈ tokens.borderRadius.tiers.entries) :
      TextAt tokens (radiusField.key tier) expr
  | prose {t : Typography} {variant text : String} {nodes : List (String × StyleNode)}
      {path : List String} (ht : tokens.typography = some t)
      (hvariant : (variant, nodes) ∈ t.variants.entries)
      (h : StyleNode.HasText (.rule nodes) path text) :
      TextAt tokens (path.foldl FieldPath.key ((typographyField.key variant).key "css")) text

end TokenSet

/-! ## What is read, and what cannot be read -/

namespace ColorTokens

/-- A value that is no color is reported at its place. -/
theorem errorAt_checkColors {items : List (String × FieldPath × String)} {flat value : String}
    {place : FieldPath} (h : (flat, place, value) ∈ items) (hkind : Color.kind? value = none)
    (seen : List (String × FieldPath)) : (checkColors seen items).1.ErrorAt place := by
  induction items generalizing seen with
  | nil => simp at h
  | cons item rest ih =>
    obtain ⟨flat', place', value'⟩ := item
    rw [checkColors]
    rcases List.mem_cons.1 h with he | h
    · simp only [Prod.mk.injEq] at he
      obtain ⟨rfl, rfl, rfl⟩ := he
      have hbad : Color.kind value = .error (.malformedColor value) := by simp [Color.kind, hkind]
      simp only [hbad]
      -- It is reported whether its name was taken before or not.
      split
      · simp only [Diagnostics.errorAt_append, Diagnostics.errorAt_error, true_or]
      · simp only [Diagnostics.errorAt_append, Diagnostics.errorAt_error, true_or]
    · simp only
      split
      · exact Diagnostics.errorAt_append.2 (.inr (ih h _))
      · exact Diagnostics.errorAt_append.2 (.inr (ih h _))

theorem errorAt_checkTokens {entries : List (String × ColorToken)} {field place : FieldPath}
    {name flat value : String} {token : ColorToken} (hmem : (name, token) ∈ entries)
    (h : (flat, place, value) ∈ placed field name token) (hkind : Color.kind? value = none)
    (seen : List (String × FieldPath)) : (checkTokens field seen entries).ErrorAt place := by
  induction entries generalizing seen with
  | nil => simp at hmem
  | cons entry rest ih =>
    obtain ⟨name', token'⟩ := entry
    rw [checkTokens]
    rcases List.mem_cons.1 hmem with he | hmem
    · simp only [Prod.mk.injEq] at he
      obtain ⟨rfl, rfl⟩ := he
      simp only [Diagnostics.errorAt_append, errorAt_checkColors h hkind, or_true, true_or]
    · exact Diagnostics.errorAt_append.2 (.inr (ih hmem _))

/-- A value of a table is reported at its place if it is no color, and else the variable it reads
is listed with its place. -/
theorem errorAt_or_mem_varRefs {colors : ColorTokens} {field place : FieldPath}
    {name flat value x : String} {token : ColorToken} (hmem : (name, token) ∈ colors.tokens.entries)
    (h : (flat, place, value) ∈ placed field name token) (hx : x ∈ Variables.refs value) :
    (colors.diagnostics field).ErrorAt place ∨ (place, x) ∈ colors.varRefs field := by
  cases hkind : Color.kind? value with
  | none => exact .inl (errorAt_checkTokens hmem h hkind _)
  | some kind =>
    right
    refine List.mem_flatMap.2 ⟨_, hmem, List.mem_filterMap.2 ⟨_, h, ?_⟩⟩
    simp only [Color.var?_of_mem_refs hkind hx, Option.map_some]

end ColorTokens

namespace RadiusScale

/-- A radius is reported at its place if it cannot be read, and else the variable it reads is
listed with its place. -/
theorem errorAt_or_mem_varRefs {scale : RadiusScale} (field : FieldPath) {tier expr x : String}
    (hmem : (tier, expr) ∈ scale.tiers.entries) (hx : x ∈ Variables.refs expr) :
    (scale.diagnostics field).ErrorAt (field.key tier) ∨
      (field.key tier, x) ∈ scale.varRefs field := by
  cases hparse : RadiusForm.parse expr with
  | error e =>
    refine .inl (Diagnostics.errorAt_append.2 (.inl ?_))
    refine (Diagnostics.errorAt_error _ e.message).concat (List.mem_map.2 ⟨_, hmem, ?_⟩)
    simp only [hparse]
  | ok form =>
    obtain ⟨minus, offset, rfl⟩ := RadiusForm.fromVar_of_mem_refs hparse hx
    refine .inr (List.mem_filterMap.2 ⟨_, hmem, ?_⟩)
    simp only [hparse]

end RadiusScale

namespace StyleNode

theorem mem_childrenRefs {nodes : List (String × StyleNode)} {key : String} {node : StyleNode}
    {field : FieldPath} {ref : FieldPath × String} (hmem : (key, node) ∈ nodes)
    (h : ref ∈ node.varRefs (field.key key)) : ref ∈ childrenRefs field nodes := by
  induction nodes with
  | nil => simp at hmem
  | cons first rest ih =>
    obtain ⟨key', node'⟩ := first
    rw [childrenRefs]
    rcases List.mem_cons.1 hmem with he | hmem
    · obtain ⟨rfl, rfl⟩ := Prod.mk.inj he
      exact List.mem_append_left _ h
    · exact List.mem_append_right _ (ih hmem)

/-- Every variable in a text of a tree is listed with the place of the text. -/
theorem HasText.mem_varRefs {node : StyleNode} {path : List String} {text x : String}
    (h : HasText node path text) (hx : x ∈ Variables.refs text) (field : FieldPath) :
    (path.foldl FieldPath.key field, x) ∈ node.varRefs field := by
  induction h generalizing field with
  | value htext =>
    rw [varRefs, htext]
    exact List.mem_map.2 ⟨x, hx, rfl⟩
  | rule hmem _ ih =>
    rw [varRefs]
    exact mem_childrenRefs hmem (ih hx _)

end StyleNode

/-- A text with a variable is reported at its place because it cannot be read, or the variable is
listed with its place. -/
theorem TokenSet.TextAt.errorAt_or_mem_varRefs {tokens : TokenSet} {place : FieldPath}
    {text name : String} (h : tokens.TextAt place text) (hasPlugin : Bool)
    (hname : name ∈ Variables.refs text) :
    (tokens.diagnostics hasPlugin).ErrorAt place ∨ (place, name) ∈ tokens.varRefs := by
  -- The value of a color may stand alone or in a group; the check places both alike.
  have hcolor {token flat : String} {value : ColorToken}
      (hmem : (token, value) ∈ tokens.colors.tokens.entries)
      (hplaced : (flat, place, text) ∈ ColorTokens.placed colorsField token value) :
      (tokens.diagnostics hasPlugin).ErrorAt place ∨ (place, name) ∈ tokens.varRefs := by
    rcases ColorTokens.errorAt_or_mem_varRefs hmem hplaced hname with hbad | href
    · left
      simp only [diagnostics, Diagnostics.errorAt_append, hbad, true_or]
    · exact .inr (List.mem_append_left _ (List.mem_append_left _ href))
  cases h with
  | color hmem => exact hcolor hmem (List.mem_singleton_self _)
  | variant hgroup hvariant => exact hcolor hgroup (List.mem_map.2 ⟨_, hvariant, rfl⟩)
  | radius hmem =>
    rcases RadiusScale.errorAt_or_mem_varRefs radiusField hmem hname with hbad | href
    · left
      simp only [diagnostics, Diagnostics.errorAt_append, hbad, true_or, or_true]
    · exact .inr (List.mem_append_left _ (List.mem_append_right _ href))
  | prose ht hvariant htext =>
    refine .inr (List.mem_append_right _ ?_)
    rw [ht]
    refine List.mem_flatMap.2 ⟨_, hvariant, ?_⟩
    simpa only [StyleNode.varRefs] using htext.mem_varRefs hname _

/-! ## What else is reported -/

/-- The message about a variable that is not declared. -/
def undeclaredMessage (name : String) : String :=
  ticked ("--" ++ name) ++ " is not declared in the root stylesheet"

theorem ne_undeclaredMessage_of_head {message : String} {c : Char}
    (h : message.toList.head? = some c) (hc : c ≠ '\x60') (name : String) :
    message ≠ undeclaredMessage name := by
  rintro rfl
  have htick : (undeclaredMessage name).toList.head? = some '\x60' :=
    head_append (head_append (head_append rfl _) _) _
  exact hc (Option.some.inj (h.symm.trans htick))

theorem ne_undeclaredMessage_of_last {message : String} (h : message.toList.getLast? ≠ some 't')
    (name : String) : message ≠ undeclaredMessage name := by
  rintro rfl
  rw [undeclaredMessage, String.toList_append, List.getLast?_append] at h
  exact h rfl

/-- A message that ends otherwise is another one. -/
theorem append_ne_undeclaredMessage (start : String) {ending : String} {c : Char}
    (h : ending.toList.getLast? = some c) (hc : c ≠ 't') (name : String) :
    start ++ ending ≠ undeclaredMessage name := by
  apply ne_undeclaredMessage_of_last
  rw [String.toList_append, List.getLast?_append, h]
  simpa using hc

theorem getLast?_ticked (s : String) : (ticked s).toList.getLast? = some '\x60' := by
  rw [ticked, String.toList_append, List.getLast?_append]
  rfl

theorem undeclaredMessage_inj {a b : String} (h : undeclaredMessage a = undeclaredMessage b) :
    a = b := by
  have hlist := congrArg String.toList h
  simp only [undeclaredMessage, ticked, String.toList_append, List.append_cancel_right_eq,
    List.append_cancel_left_eq] at hlist
  exact String.toList_inj.1 hlist

/-- No value language has a message of this kind. -/
theorem ThemeError.message_ne_undeclared (e : ThemeError) (name : String) :
    e.message ≠ undeclaredMessage name := by
  -- The messages are told apart by their first character, or by how they end.
  cases e with
  | unknownUtility utility => exact append_ne_undeclaredMessage _ rfl (by decide) name
  | unknownToken utility token =>
    exact ne_undeclaredMessage_of_head (c := 'u')
      (head_append (head_append (head_append rfl _) _) _) (by decide) name
  | unsupportedModifier color =>
    exact ne_undeclaredMessage_of_head (c := 'o')
      (head_append (head_append rfl _) _) (by decide) name
  | malformedColor text =>
    exact ne_undeclaredMessage_of_head (c := 'm') (head_append rfl _) (by decide) name
  | malformedRadius text =>
    exact ne_undeclaredMessage_of_head (c := 'm')
      (head_append (head_append rfl _) _) (by decide) name
  | malformedLength text =>
    exact ne_undeclaredMessage_of_head (c := 'm') (head_append rfl _) (by decide) name
  | malformedAnimation text reason =>
    exact ne_undeclaredMessage_of_head (c := 'm')
      (head_append (head_append (head_append rfl _) _) _) (by decide) name
  | malformedOffset text =>
    exact ne_undeclaredMessage_of_head (c := 'm')
      (head_append (head_append rfl _) _) (by decide) name
  | malformedGlob pattern reason =>
    exact ne_undeclaredMessage_of_head (c := 'm')
      (head_append (head_append (head_append rfl _) _) _) (by decide) name

namespace Diagnostics

/-- No error says that a variable is not declared. -/
def SaysOther (d : Diagnostics) : Prop := ∀ e ∈ d.errors, ∀ name, e.message ≠ undeclaredMessage name

@[simp] theorem saysOther_none : none.SaysOther := by simp [SaysOther]

@[simp] theorem saysOther_warning (field : FieldPath) (message : String) :
    (warning field message).SaysOther := by simp [SaysOther]

@[simp] theorem saysOther_error (field : FieldPath) (message : String) :
    (error field message).SaysOther ↔ ∀ name, message ≠ undeclaredMessage name := by
  simp [SaysOther]

@[simp] theorem saysOther_errorWithHint (field : FieldPath) (message hint : String) :
    (errorWithHint field message hint).SaysOther ↔ ∀ name, message ≠ undeclaredMessage name := by
  simp [SaysOther]

@[simp] theorem saysOther_append (a b : Diagnostics) :
    (a ++ b).SaysOther ↔ a.SaysOther ∧ b.SaysOther := by
  simp only [SaysOther, errors_append, List.mem_append, or_imp, forall_and]

@[simp] theorem saysOther_concat (ds : List Diagnostics) :
    (concat ds).SaysOther ↔ ∀ d ∈ ds, d.SaysOther := by
  simp only [SaysOther, errors_concat, List.mem_flatMap]
  exact ⟨fun h d hd e he => h e ⟨d, hd, he⟩, fun h e ⟨d, hd, he⟩ => h d hd e he⟩

theorem SaysOther.when {d : Diagnostics} (h : d.SaysOther) (condition : Bool) :
    (when condition d).SaysOther := by
  cases condition with
  | false => exact saysOther_none
  | true => exact h

theorem saysOther_themeError (field : FieldPath) (e : ThemeError) :
    (error field e.message).SaysOther :=
  (saysOther_error _ _).2 e.message_ne_undeclared

theorem saysOther_forItems {α : Type} {items : List α} {f : Nat → α → Diagnostics}
    (h : ∀ i x, (f i x).SaysOther) : (forItems items f).SaysOther := by
  rw [forItems, saysOther_concat]
  intro d hd
  obtain ⟨⟨x, i⟩, -, rfl⟩ := List.mem_map.1 hd
  exact h i x

theorem saysOther_concat_map {α : Type} {items : List α} {f : α → Diagnostics}
    (h : ∀ x, (f x).SaysOther) : (concat (items.map f)).SaysOther := by
  rw [saysOther_concat]
  intro d hd
  obtain ⟨x, -, rfl⟩ := List.mem_map.1 hd
  exact h x

end Diagnostics

open Diagnostics

theorem ContentGlob.saysOther_diagnostics (globs : List ContentGlob) (field : FieldPath) :
    (ContentGlob.diagnostics globs field).SaysOther := by
  refine (saysOther_append _ _).2 ⟨(saysOther_warning _ _).when _, saysOther_forItems ?_⟩
  intro i g
  unfold ContentGlob.check
  split
  · exact saysOther_themeError _ _
  · exact (saysOther_warning _ _).when _

theorem ThemePlugin.saysOther_diagnostics (plugins : List ThemePlugin) (field : FieldPath) :
    (ThemePlugin.diagnostics plugins field).SaysOther :=
  saysOther_forItems fun _ _ => (saysOther_warning _ _).when _

namespace Container

theorem saysOther_checkScreens {α : Type} [Measure α] (screens : List (String × String))
    (previous : Option (String × α)) : (checkScreens previous screens).SaysOther := by
  induction screens generalizing previous with
  | nil => exact saysOther_none
  | cons screen rest ih =>
    obtain ⟨name, width⟩ := screen
    rw [checkScreens]
    split
    · exact (saysOther_append _ _).2 ⟨saysOther_themeError _ _, ih _⟩
    · refine (saysOther_append _ _).2 ⟨?_, ih _⟩
      split
      · exact saysOther_none
      · exact (saysOther_warning _ _).when _

theorem saysOther_diagnostics (c : Container) : c.diagnostics.SaysOther := by
  refine (saysOther_append _ _).2 ⟨?_, saysOther_checkScreens _ _⟩
  unfold checkPadding
  split
  · exact saysOther_themeError _ _
  · exact saysOther_none

end Container

namespace ColorTokens

theorem saysOther_checkColors (items : List (String × FieldPath × String))
    (seen : List (String × FieldPath)) : (checkColors seen items).1.SaysOther := by
  induction items generalizing seen with
  | nil => exact saysOther_none
  | cons item rest ih =>
    obtain ⟨flat, place, value⟩ := item
    have htaken : ∀ first : FieldPath, (Diagnostics.error place
        ("token " ++ ticked flat ++ " is already defined by " ++ first.text)).SaysOther := by
      intro first
      exact (saysOther_error _ _).2 (ne_undeclaredMessage_of_head (c := 't')
        (head_append (head_append (head_append rfl _) _) _) (by decide))
    rw [checkColors]
    -- Neither a wrong value nor a name that was taken speaks of a variable.
    cases Color.kind value with
    | ok kind =>
      split
      · simp only [saysOther_append]
        exact ⟨⟨saysOther_none, htaken _⟩, ih _⟩
      · exact (saysOther_append _ _).2 ⟨saysOther_none, ih _⟩
    | error e =>
      split
      · simp only [saysOther_append]
        exact ⟨⟨saysOther_themeError _ _, htaken _⟩, ih _⟩
      · exact (saysOther_append _ _).2 ⟨saysOther_themeError _ _, ih _⟩

theorem saysOther_checkNeeded (field : FieldPath) (key : String) (value : Option String) :
    (checkNeeded field key value).SaysOther := by
  unfold checkNeeded
  split
  · exact (saysOther_errorWithHint _ _ _).2
      (ne_undeclaredMessage_of_head (c := 'm') (head_append rfl _) (by decide))
  · refine SaysOther.when ?_ _
    exact (saysOther_errorWithHint _ _ _).2 (append_ne_undeclaredMessage _ rfl (by decide))

theorem saysOther_checkToken (field : FieldPath) (name : String) (token : ColorToken) :
    (checkToken field name token).SaysOther := by
  refine (saysOther_append _ _).2 ⟨SaysOther.when ?_ _, ?_⟩
  · exact (saysOther_errorWithHint _ _ _).2 (append_ne_undeclaredMessage _ rfl (by decide))
  · cases token with
    | single value => exact saysOther_none
    | group g =>
      simp only [checkGroup, saysOther_append]
      refine ⟨⟨saysOther_checkNeeded _ _ _, saysOther_checkNeeded _ _ _⟩, ?_⟩
      refine saysOther_concat_map fun key => SaysOther.when ?_ _
      exact (saysOther_error _ _).2 (append_ne_undeclaredMessage _ rfl (by decide))

theorem saysOther_diagnostics (colors : ColorTokens) (field : FieldPath) :
    (colors.diagnostics field).SaysOther := by
  unfold diagnostics
  generalize ([] : List (String × FieldPath)) = seen
  induction colors.tokens.entries generalizing seen with
  | nil => exact saysOther_none
  | cons entry rest ih =>
    obtain ⟨name, token⟩ := entry
    rw [checkTokens]
    simp only [saysOther_append]
    exact ⟨⟨saysOther_checkToken _ _ _, saysOther_checkColors _ _⟩, ih _⟩

end ColorTokens

namespace RadiusScale

theorem saysOther_checkPairs (α : Type) [Measure α] (field : FieldPath)
    (tiers : List (String × RadiusForm)) : (checkPairs α field tiers).SaysOther := by
  induction tiers with
  | nil => exact saysOther_none
  | cons small rest ih =>
    cases rest with
    | nil => exact saysOther_none
    | cons large rest =>
      rw [checkPairs]
      refine (saysOther_append _ _).2 ⟨?_, ih⟩
      unfold checkPair
      split
      · exact saysOther_none
      · exact (saysOther_errorWithHint _ _ _).2
          (append_ne_undeclaredMessage _ (getLast?_ticked _) (by decide))
      · exact saysOther_warning _ _

theorem saysOther_diagnostics (scale : RadiusScale) (field : FieldPath) :
    (scale.diagnostics field).SaysOther := by
  refine (saysOther_append _ _).2 ⟨saysOther_concat_map ?_, saysOther_checkPairs _ _ _⟩
  rintro ⟨tier, expr⟩
  simp only
  split
  · exact saysOther_none
  · exact saysOther_themeError _ _

end RadiusScale

theorem FontFamilies.saysOther_diagnostics (families : FontFamilies) (field : FieldPath) :
    (families.diagnostics field).SaysOther := by
  refine saysOther_concat_map ?_
  rintro ⟨role, fonts⟩
  simp only [FontFamilies.checkRole]
  split
  · exact (saysOther_error _ _).2 (ne_undeclaredMessage_of_head (c := 'f') rfl (by decide))
  · refine (saysOther_append _ _).2
      ⟨saysOther_forItems fun i name => ?_, (saysOther_warning _ _).when _⟩
    unfold FontFamilies.checkFont
    split
    · exact (saysOther_error _ _).2 (ne_undeclaredMessage_of_head (c := 'f') rfl (by decide))
    · refine SaysOther.when ((saysOther_error _ _).2 ?_) _
      exact append_ne_undeclaredMessage _ rfl (by decide)

theorem KeyframeTable.saysOther_diagnostics (table : KeyframeTable) (field : FieldPath) :
    (table.diagnostics field).SaysOther := by
  refine saysOther_concat_map ?_
  rintro ⟨name, frames⟩
  refine (saysOther_append _ _).2
    ⟨(saysOther_warning _ _).when _, saysOther_concat_map ?_⟩
  rintro ⟨selector, properties⟩
  refine (saysOther_append _ _).2 ⟨?_, saysOther_concat_map ?_⟩
  · split
    · exact saysOther_none
    · exact saysOther_themeError _ _
  · rintro ⟨property, value⟩
    simp only [Keyframes.checkProperty]
    split
    · exact (saysOther_error _ _).2 (append_ne_undeclaredMessage _ rfl (by decide))
    · refine SaysOther.when ((saysOther_error _ _).2 ?_) _
      exact ne_undeclaredMessage_of_head (c := 'e') rfl (by decide)

theorem Animations.saysOther_diagnostics (animations : Animations) (field : FieldPath)
    (keyframes : KeyframeTable) : (animations.diagnostics field keyframes).SaysOther := by
  refine saysOther_concat_map ?_
  rintro ⟨name, shorthand⟩
  simp only [Animations.check]
  split
  · exact saysOther_themeError _ _
  · refine (saysOther_append _ _).2 ⟨SaysOther.when ?_ _, (saysOther_warning _ _).when _⟩
    exact (saysOther_errorWithHint _ _ _).2 (append_ne_undeclaredMessage _ rfl (by decide))

namespace StyleNode

mutual

theorem saysOther_check (field : FieldPath) (key : String) :
    (node : StyleNode) → (node.check field key).SaysOther
  | .value v => by
    rw [check, checkValue]
    split
    · exact (saysOther_error _ _).2 (append_ne_undeclaredMessage _ rfl (by decide))
    · refine SaysOther.when ((saysOther_error _ _).2 ?_) _
      exact ne_undeclaredMessage_of_head (c := 'e') rfl (by decide)
  | .rule nodes => by
    rw [check]
    refine (saysOther_append _ _).2 ⟨SaysOther.when ((saysOther_error _ _).2 ?_) _,
      saysOther_checkChildren field nodes⟩
    exact ne_undeclaredMessage_of_head (c := 'e') rfl (by decide)

theorem saysOther_checkChildren (field : FieldPath) :
    (nodes : List (String × StyleNode)) → (checkChildren field nodes).SaysOther
  | [] => saysOther_none
  | (key, node) :: rest => by
    rw [checkChildren]
    exact (saysOther_append _ _).2
      ⟨saysOther_check (field.key key) key node, saysOther_checkChildren field rest⟩

end

end StyleNode

theorem TokenSet.saysOther_checkTypography (tokens : TokenSet) (hasPlugin : Bool) :
    (tokens.checkTypography hasPlugin).SaysOther := by
  unfold TokenSet.checkTypography
  split
  · exact saysOther_none
  · refine (saysOther_append _ _).2 ⟨saysOther_concat_map ?_, SaysOther.when ?_ _⟩
    · rintro ⟨variant, nodes⟩
      refine (saysOther_append _ _).2 ⟨SaysOther.when ((saysOther_error _ _).2 ?_) _,
        StyleNode.saysOther_checkChildren _ _⟩
      exact append_ne_undeclaredMessage _ rfl (by decide)
    · exact (saysOther_errorWithHint _ _ _).2
        (ne_undeclaredMessage_of_head (c := 't') rfl (by decide))

/-! ## References -/

namespace Theme

/-- Only the comparison with a stylesheet says that a variable is not declared. -/
theorem saysOther_diagnostics_none (t : Theme) : (t.diagnostics none).SaysOther := by
  have hcontainer : ((t.container.map Container.diagnostics).getD .none).SaysOther := by
    cases t.container with
    | none => exact saysOther_none
    | some c => exact c.saysOther_diagnostics
  simp only [diagnostics, TokenSet.diagnostics, saysOther_append]
  exact ⟨⟨⟨⟨ContentGlob.saysOther_diagnostics _ _, ThemePlugin.saysOther_diagnostics _ _⟩,
    hcontainer⟩, ⟨⟨⟨⟨ColorTokens.saysOther_diagnostics _ _, RadiusScale.saysOther_diagnostics _ _⟩,
    FontFamilies.saysOther_diagnostics _ _⟩, KeyframeTable.saysOther_diagnostics _ _⟩,
    Animations.saysOther_diagnostics _ _ _⟩, TokenSet.saysOther_checkTypography _ _⟩,
    saysOther_none⟩

/-- The comparison reports the variables that tokens read and the stylesheet lacks. -/
theorem mem_errors_checkVarRefs {t : Theme} {vars : RootVariables} {e : Diagnostic} :
    e ∈ (t.checkVarRefs vars).errors ↔
      ∃ place name, (place, name) ∈ t.tokens.varRefs ∧ vars.contains name = false ∧
        e = { field := place, message := undeclaredMessage name,
              hint := some ("declare it in " ++ (t.stylesheet.map (·.text)).getD "") } := by
  simp only [checkVarRefs, errors_concat, List.mem_flatMap, List.mem_map]
  constructor
  · rintro ⟨d, ⟨⟨place, name⟩, href, rfl⟩, he⟩
    cases hname : vars.contains name with
    | true => simp [hname, errors_when] at he
    | false =>
      refine ⟨place, name, href, hname, ?_⟩
      simpa [hname, errors_when, undeclaredMessage] using he
  · rintro ⟨place, name, href, hname, rfl⟩
    refine ⟨_, ⟨(place, name), href, rfl⟩, ?_⟩
    simp [hname, errors_when, undeclaredMessage]

/-- A text of a token with a variable that the stylesheet lacks is reported at its place. -/
theorem errorAt_of_undeclared {t : Theme} {vars : RootVariables} {place : FieldPath}
    {text name : String} (h : t.tokens.TextAt place text) (hname : name ∈ Variables.refs text)
    (hvars : vars.contains name = false) : (t.diagnostics (some vars)).ErrorAt place := by
  rcases h.errorAt_or_mem_varRefs (t.hasPlugin .typography) hname with htokens | href
  · simp only [diagnostics, errorAt_append, htokens, true_or, or_true]
  · refine errorAt_append.2 (.inr ?_)
    exact ⟨_, mem_errors_checkVarRefs.2 ⟨place, name, href, hvars, rfl⟩, rfl⟩

/-- An animation that cannot be read or lacks its keyframes is reported at its place. -/
theorem errorAt_of_animation {t : Theme} {vars : Option RootVariables} {name shorthand : String}
    (hmem : (name, shorthand) ∈ t.tokens.animation.shorthands.entries)
    (h : ∀ animation, Animation.parse shorthand = .ok animation →
      t.tokens.keyframes.blocks.contains animation.name = false) :
    (t.diagnostics vars).ErrorAt (TokenSet.animationField.key name) := by
  have hcheck : (Animations.check t.tokens.keyframes (TokenSet.animationField.key name)
      shorthand).ErrorAt (TokenSet.animationField.key name) := by
    unfold Animations.check
    cases hparse : Animation.parse shorthand with
    | error e => exact errorAt_error _ _
    | ok animation =>
      simp only [h animation hparse, Bool.not_false]
      exact errorAt_append.2 (.inl (errorAt_errorWithHint _ _ _))
  have hanimations : (t.tokens.animation.diagnostics TokenSet.animationField
      t.tokens.keyframes).ErrorAt (TokenSet.animationField.key name) :=
    hcheck.concat (List.mem_map.2 ⟨_, hmem, rfl⟩)
  simp only [diagnostics, TokenSet.diagnostics, errorAt_append, hanimations, true_or, or_true]

/-- The check against a stylesheet is sound: each text of a token that reads a variable which is
not declared, and each animation without keyframes, has an error at its place, and nothing that is
declared is reported. So a theme without errors has no dangling reference. -/
theorem diagnostics_references (t : Theme) (vars : RootVariables) :
    (∀ place text name, t.tokens.TextAt place text → name ∈ Variables.refs text →
      vars.contains name = false → (t.diagnostics (some vars)).ErrorAt place) ∧
    (∀ name shorthand, (name, shorthand) ∈ t.tokens.animation.shorthands.entries →
      ((∃ e, Animation.parse shorthand = .error e) ∨
        ∃ animation, Animation.parse shorthand = .ok animation ∧
          t.tokens.keyframes.blocks.contains animation.name = false) →
      (t.diagnostics (some vars)).ErrorAt (TokenSet.animationField.key name)) ∧
    (∀ e ∈ (t.diagnostics (some vars)).errors, ∀ name, e.message = undeclaredMessage name →
      vars.contains name = false) ∧
    ((t.diagnostics (some vars)).errors = [] →
      (∀ place text name, t.tokens.TextAt place text → name ∈ Variables.refs text →
        vars.contains name = true) ∧
      ∀ name shorthand, (name, shorthand) ∈ t.tokens.animation.shorthands.entries →
        ∃ animation, Animation.parse shorthand = .ok animation ∧
          t.tokens.keyframes.blocks.contains animation.name = true) := by
  refine ⟨fun _ _ _ => errorAt_of_undeclared, ?_, ?_, fun hnone => ⟨?_, ?_⟩⟩
  · rintro name shorthand hmem (⟨e, hparse⟩ | ⟨animation, hparse, hframes⟩)
    · refine errorAt_of_animation hmem fun animation hok => ?_
      simp [hparse] at hok
    · refine errorAt_of_animation hmem fun other hok => ?_
      obtain rfl := Except.ok.inj (hparse.symm.trans hok)
      exact hframes
  · intro e he name hmessage
    -- Only the last part of the check speaks of variables.
    have hsplit : (t.diagnostics (some vars)).errors =
        (t.diagnostics none).errors ++ (t.checkVarRefs vars).errors := by
      simp [diagnostics]
    rw [hsplit] at he
    rcases List.mem_append.1 he with he | he
    · exact absurd hmessage (t.saysOther_diagnostics_none e he name)
    · obtain ⟨place, found, -, hfound, rfl⟩ := mem_errors_checkVarRefs.1 he
      rwa [← undeclaredMessage_inj hmessage]
  · intro place text name htext hname
    by_contra hvars
    obtain ⟨e, he, -⟩ := errorAt_of_undeclared htext hname (by simpa using hvars)
    simp [hnone] at he
  · intro name shorthand hmem
    by_contra hnot
    have herror : (t.diagnostics (some vars)).ErrorAt (TokenSet.animationField.key name) := by
      refine errorAt_of_animation hmem fun animation hparse => ?_
      by_contra hframes
      exact hnot ⟨animation, hparse, by simpa using hframes⟩
    obtain ⟨e, he, -⟩ := herror
    simp [hnone] at he

end Theme

end DocSite
