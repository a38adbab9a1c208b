import DocSite.Proofs.Theme.Layers

/-!
# Variants in front of a class

  A class is a base with variants in front of it. Each `dark` puts the ancestor of
  dark styles before the selector, or a media query around the rule; each state puts
  a pseudo-class behind the selector. What is put before the selector and what is put
  behind it never meet, and so `dark` may stand anywhere among the states.
-/

namespace DocSite

open DocSite.Text

namespace Utility

/-! ## One variant -/

/-- Whether a variant stands for a state of an element. -/
def IsState (variant : String) : Prop := variant ∈ pseudoVariants.map Prod.fst

instance : DecidablePred IsState := fun variant =>
  inferInstanceAs (Decidable (variant ∈ pseudoVariants.map Prod.fst))

/-- The variants that there are. -/
def IsVariant (variant : String) : Prop := variant = "dark" ∨ IsState variant

instance : DecidablePred IsVariant := fun variant =>
  inferInstanceAs (Decidable (variant = "dark" ∨ IsState variant))

/-- The pseudo-class of a state: its name, but for the two that ask for a place among siblings. -/
def pseudoClass (state : String) : String :=
  if state = "first" then "first-child" else if state = "last" then "last-child" else state

theorem lookup_pseudoVariants (variant : String) : Table.lookup variant pseudoVariants =
    if IsState variant then some (pseudoClass variant) else none := by
  split
  · rename_i h
    have hall : ∀ state ∈ pseudoVariants.map Prod.fst,
        Table.lookup state pseudoVariants = some (pseudoClass state) := by
      decide
    exact hall variant h
  · rename_i h
    exact (Table.lookup_eq_none_iff variant pseudoVariants).2 h

/-! ## What variants add to a rule -/

/-- What variants put before a selector: the ancestor of dark styles, if there is one, once for
each `dark`. -/
def ancestors (mode : DarkMode) (variants : List String) : String :=
  match mode.selector? with
  | none => ""
  | some ancestor => String.join (List.replicate (variants.count "dark") (ancestor ++ " "))

/-- What variants put behind a selector: a pseudo-class for each state, in order. -/
def states (variants : List String) : String :=
  String.join ((variants.filter (· ≠ "dark")).map fun state => ":" ++ pseudoClass state)

/-- A rule with variants added to it. -/
def behind (mode : DarkMode) (variants : List String) (u : Utility) : Utility :=
  { u with
    selector := ancestors mode variants ++ u.selector ++ states variants
    atRule := if "dark" ∈ variants ∧ mode = .media then some darkQuery else u.atRule }

theorem states_append (front back : List String) :
    states (front ++ back) = states front ++ states back := by
  simp [states]

/-- All ancestors are the same text, so it does not matter which of them come first. -/
theorem ancestors_append (mode : DarkMode) (front back : List String) :
    ancestors mode (front ++ back) = ancestors mode back ++ ancestors mode front := by
  rw [ancestors, ancestors, ancestors]
  cases mode.selector? with
  | none => rfl
  | some ancestor =>
    show String.join _ = String.join _ ++ String.join _
    rw [List.count_append, Nat.add_comm, List.replicate_add, String.join_append]

@[simp] theorem behind_nil (mode : DarkMode) (u : Utility) : u.behind mode [] = u := by
  cases mode <;> simp [behind, ancestors, states, DarkMode.selector?]

/-- Variants can be added one after the other. -/
theorem behind_append (mode : DarkMode) (front back : List String) (u : Utility) :
    u.behind mode (front ++ back) = (u.behind mode front).behind mode back := by
  have hselector : (u.behind mode (front ++ back)).selector =
      ((u.behind mode front).behind mode back).selector := by
    simp only [behind, ancestors_append, states_append, String.append_assoc]
  have hquery : (u.behind mode (front ++ back)).atRule =
      ((u.behind mode front).behind mode back).atRule := by
    simp only [behind, List.mem_append]
    grind
  rw [behind, behind, mk.injEq]
  exact ⟨hselector, hquery, rfl⟩

end Utility

namespace Theme

open Utility

/-- One variant is added if there is such a variant. -/
theorem addVariant?_eq (mode : DarkMode) (u : Utility) (variant : String) :
    addVariant? mode u variant =
      if IsVariant variant then some (u.behind mode [variant]) else none := by
  rw [addVariant?]
  by_cases hdark : variant = "dark"
  · subst hdark
    rw [if_pos rfl, if_pos (.inl rfl)]
    cases mode <;> simp [behind, ancestors, states, DarkMode.selector?]
  · have hvariant : IsVariant variant ↔ IsState variant := or_iff_right hdark
    have hnot : ¬"dark" = variant := fun h => hdark h.symm
    rw [if_neg hdark, lookup_pseudoVariants]
    by_cases hstate : IsState variant
    · rw [if_pos hstate, if_pos (hvariant.2 hstate)]
      cases mode <;> simp [behind, ancestors, states, DarkMode.selector?, hdark, hnot,
        String.append_assoc]
    · rw [if_neg hstate, if_neg fun h => hstate (hvariant.1 h)]
      rfl

/-- All variants of a list are added if there are such variants. -/
theorem foldlM_addVariant? (mode : DarkMode) (variants : List String) (u : Utility) :
    variants.foldlM (addVariant? mode) u =
      if ∀ v ∈ variants, IsVariant v then some (u.behind mode variants) else none := by
  induction variants generalizing u with
  | nil => simp
  | cons variant rest ih =>
    rw [List.foldlM_cons, addVariant?_eq]
    by_cases hvariant : IsVariant variant
    · -- The rest is added to what the first variant has made of the rule.
      rw [if_pos hvariant, Option.bind_eq_bind, Option.bind_some, ih]
      simp only [List.forall_mem_cons, hvariant, true_and, ← behind_append, List.singleton_append]
    · simp [hvariant]

end Theme

/-! ## Classes -/

/-- A trimmed class: variants and a base, with colons between them. -/
structure ClassName where
  variants : List String
  base : String
  noColon : ∀ part ∈ variants ++ [base], ':' ∉ part.toList
  trimmed : trim (joinText ":" (variants ++ [base])) = joinText ":" (variants ++ [base])

namespace ClassName

/-- The class as it is written. -/
def text (c : ClassName) : String := joinText ":" (c.variants ++ [c.base])

theorem trimBoth_text (c : ClassName) : trimBoth c.text.toList = c.text.toList := by
  rw [← toList_trim, text, c.trimmed]

/-- The parts of a class are found where its colons stand. -/
theorem splitOn_text (c : ClassName) :
    splitOn ':' c.text.toList = c.variants.map String.toList ++ [c.base.toList] := by
  have hcolon : ∀ piece ∈ (c.variants ++ [c.base]).map String.toList, ':' ∉ piece := by
    intro piece hpiece
    obtain ⟨part, hpart, rfl⟩ := List.mem_map.1 hpiece
    exact c.noColon part hpart
  rw [text, toList_joinText]
  exact (splitOn_joinWith (by simp) hcolon).trans (by simp)

theorem text_injective : Function.Injective text := by
  intro c c' h
  have hparts : c.variants.map String.toList ++ [c.base.toList] =
      c'.variants.map String.toList ++ [c'.base.toList] := by
    rw [← c.splitOn_text, ← c'.splitOn_text, h]
  -- The last part is the base, and all parts before it are the variants.
  obtain ⟨hvariants, hbase⟩ := List.append_inj' hparts rfl
  have hstrings : Function.Injective String.toList := fun _ _ h => String.toList_injective h
  rw [ClassName.mk.injEq]
  exact ⟨hstrings.list_map hvariants, hstrings (List.singleton_inj.1 hbase)⟩

/-- Every trimmed text is one class. -/
theorem existsUnique_text_eq {text : String} (h : trim text = text) :
    ∃! c : ClassName, c.text = text := by
  obtain ⟨variants, base, hparts⟩ : ∃ variants base, splitText ':' text = variants ++ [base] := by
    have hne : splitText ':' text ≠ [] := by simp [splitText, splitOn_ne_nil]
    exact ⟨_, _, (List.dropLast_concat_getLast hne).symm⟩
  have hjoin : joinText ":" (variants ++ [base]) = text := hparts ▸ joinText_splitText rfl text
  have hcolon : ∀ part ∈ variants ++ [base], ':' ∉ part.toList := by
    rw [← hparts]
    exact fun part hpart => not_mem_of_mem_splitText hpart
  exact ⟨⟨variants, base, hcolon, by rw [hjoin, h]⟩, hjoin,
    fun c hc => text_injective (hc.trans hjoin.symm)⟩

/-- The rule of a class as its base gives it, before any variant is added. -/
def plainRule (c : ClassName) (declaration : String × String) : Utility where
  selector := "." ++ String.ofList (Utility.escapeClass c.text.toList)
  declarations := [declaration]

/-- A class with `dark` moved to other places among the same states. -/
structure MovesDark (c c' : ClassName) : Prop where
  base : c'.base = c.base
  states : c'.variants.filter (· ≠ "dark") = c.variants.filter (· ≠ "dark")
  darks : c'.variants.count "dark" = c.variants.count "dark"

end ClassName

namespace Theme

open Utility

/-- The base gives the declaration, and then the variants are added. -/
theorem resolveUtility_text (t : Theme) (c : ClassName) : t.resolveUtility c.text =
    if c.base = "" then .error (.unknownUtility c.text)
    else t.resolveBase c.text c.base.toList >>= fun declaration =>
      if ∀ v ∈ c.variants, IsVariant v then
        .ok ((c.plainRule declaration).behind t.effectiveDarkMode c.variants)
      else .error (.unknownUtility c.text) := by
  have hvariants : (c.variants.map String.toList).map String.ofList = c.variants := by
    simp [Function.comp_def]
  have hplain (declaration : String × String) : c.plainRule declaration =
      { selector := String.ofList ('.' :: escapeClass c.text.toList)
        declarations := [declaration] } := by
    rw [ClassName.plainRule, Utility.mk.injEq]
    exact ⟨String.toList_injective (by simp), rfl, rfl⟩
  simp only [resolveUtility, c.trimBoth_text, c.splitOn_text, List.getLast?_concat,
    Option.getD_some, List.dropLast_concat, hvariants, String.ofList_toList, foldlM_addVariant?,
    List.isEmpty_iff, String.toList_eq_nil_iff, ← hplain]
  congr 2
  funext declaration
  by_cases hknown : ∀ v ∈ c.variants, IsVariant v
  · simp only [if_pos hknown]
  · simp only [if_neg hknown]

/-- What a base is resolved to does not depend on the class it stands in. -/
theorem resolveBase_eq_ok_iff (t : Theme) (className className' : String) {base : List Char}
    {declaration : String × String} : t.resolveBase className base = .ok declaration ↔
      t.resolveBase className' base = .ok declaration :=
  have hfollows (c c' : String) := follows_resolveBase (.refl t.tokens) c c' base
  ⟨hfollows _ _ declaration, hfollows _ _ declaration⟩

/-- A class has a rule when there is a base with a declaration and each variant is known. -/
theorem resolveUtility_eq_ok_iff (t : Theme) (c : ClassName) {u : Utility} :
    t.resolveUtility c.text = .ok u ↔ c.base ≠ "" ∧ (∀ v ∈ c.variants, IsVariant v) ∧
      ∃ declaration, t.resolveBase c.base c.base.toList = .ok declaration ∧
        u = (c.plainRule declaration).behind t.effectiveDarkMode c.variants := by
  rw [resolveUtility_text]
  by_cases hbase : c.base = ""
  · simp [hbase]
  · simp only [if_neg hbase, resolveBase_eq_ok_iff t c.base c.text]
    cases t.resolveBase c.text c.base.toList with
    | error e => simp [bind, Except.bind]
    | ok declaration =>
      simp only [bind, Except.bind, Except.ok.injEq, exists_eq_left', ne_eq, hbase,
        not_false_eq_true, true_and]
      by_cases hknown : ∀ v ∈ c.variants, IsVariant v
      · rw [if_pos hknown, Except.ok.injEq, eq_comm]
        exact (and_iff_right hknown).symm
      · rw [if_neg hknown]
        simp only [reduceCtorEq, hknown, false_and]

/-! ## Where `dark` stands -/

/-- Apart from `dark`, the variants of a class are the names of states. -/
theorem forall_isVariant_iff {variants : List String} : (∀ v ∈ variants, IsVariant v) ↔
    ∀ v ∈ variants.filter (· ≠ "dark"), IsState v := by
  simp [IsVariant, or_iff_not_imp_left]

/-- Moving `dark` among the states adds the same to a rule. -/
theorem behind_of_movesDark {c c' : ClassName} (h : c.MovesDark c') (mode : DarkMode)
    (u : Utility) : u.behind mode c'.variants = u.behind mode c.variants := by
  have hmem : "dark" ∈ c'.variants ↔ "dark" ∈ c.variants := by
    rw [← List.count_pos_iff, ← List.count_pos_iff, h.darks]
  simp only [behind, ancestors, states, h.darks, h.states, hmem]

/-- A class has a rule exactly if it has a base that is resolved and all of its variants are known.
The declaration comes from the base alone. Before the class, the selector has the ancestor of dark
styles once for each `dark`, and behind it a pseudo-class for each state in order; a media query
stands around the rule if some variant is `dark` and dark styles follow the system. Moving `dark`
among the states changes nothing but the escaped class. -/
theorem resolveUtility_variants (t : Theme) (c : ClassName) :
    ((∃ u, t.resolveUtility c.text = .ok u) ↔ c.base ≠ "" ∧
      (∃ declaration, t.resolveBase c.base c.base.toList = .ok declaration) ∧
      ∀ v ∈ c.variants, IsVariant v) ∧
    ∀ u, t.resolveUtility c.text = .ok u →
      (∃ declaration, t.resolveBase c.base c.base.toList = .ok declaration ∧
        u.declarations = [declaration]) ∧
      u.selector = ancestors t.effectiveDarkMode c.variants ++
        ("." ++ String.ofList (escapeClass c.text.toList)) ++ states c.variants ∧
      u.atRule = (if "dark" ∈ c.variants ∧ t.effectiveDarkMode = .media then some darkQuery
        else none) ∧
      ∀ c' : ClassName, c.MovesDark c' → t.resolveUtility c'.text = .ok
        { u with
          selector := ancestors t.effectiveDarkMode c.variants ++
            ("." ++ String.ofList (escapeClass c'.text.toList)) ++ states c.variants } := by
  constructor
  · -- The conditions say nothing of the rule itself.
    simp only [resolveUtility_eq_ok_iff]
    constructor
    · rintro ⟨-, hbase, hknown, declaration, hdeclaration, -⟩
      exact ⟨hbase, ⟨declaration, hdeclaration⟩, hknown⟩
    · rintro ⟨hbase, ⟨declaration, hdeclaration⟩, hknown⟩
      exact ⟨_, hbase, hknown, declaration, hdeclaration, rfl⟩
  · intro u hu
    obtain ⟨hbase, hknown, declaration, hdeclaration, rfl⟩ := (resolveUtility_eq_ok_iff t c).1 hu
    refine ⟨⟨declaration, hdeclaration, rfl⟩, rfl, rfl, fun c' hmoves => ?_⟩
    -- The variants are known in any order, and what they add is the same.
    rw [forall_isVariant_iff, ← hmoves.states, ← forall_isVariant_iff] at hknown
    refine (resolveUtility_eq_ok_iff t c').2
      ⟨hmoves.base ▸ hbase, hknown, declaration, hmoves.base ▸ hdeclaration, ?_⟩
    rw [behind_of_movesDark hmoves]
    rfl

/-- A theme whose dark styles stand below an ancestor. -/
def duskTheme : Theme where
  darkMode := some (.ancestor (some ".dusk"))
  tokens.colors.tokens.entries := [("muted", .single "#fff")]

/-- A class with `dark` in front of a state. -/
def darkFirst : ClassName := ⟨["dark", "first"], "bg-muted", by decide, by decide⟩

/-- The class with `dark` behind the state. -/
def darkLast : ClassName := ⟨["first", "dark"], "bg-muted", by decide, by decide⟩

theorem resolveUtility_variants_dusk : darkFirst.MovesDark darkLast ∧
    (∃ u, duskTheme.resolveUtility "dark:first:bg-muted" = .ok u ∧
      u.selector = ".dusk .dark\\:first\\:bg-muted:first-child" ∧ u.atRule = none ∧
      u.declarations = [("background-color", "#fff")]) ∧
    ∃ u, duskTheme.resolveUtility "first:dark:bg-muted" = .ok u ∧
      u.selector = ".dusk .first\\:dark\\:bg-muted:first-child" := by
  have hmoves : darkFirst.MovesDark darkLast := ⟨rfl, by decide, by decide⟩
  have hbase : duskTheme.resolveBase "bg-muted" "bg-muted".toList =
      .ok ("background-color", "#fff") := by
    rfl
  obtain ⟨hresolves, hrule⟩ := resolveUtility_variants duskTheme darkFirst
  obtain ⟨u, hu⟩ := hresolves.2 ⟨by decide, ⟨_, hbase⟩, by decide⟩
  obtain ⟨⟨declaration, hdeclaration, hu'⟩, hselector, hquery, hmoved⟩ := hrule u hu
  obtain rfl := Except.ok.inj (hbase.symm.trans hdeclaration)
  refine ⟨hmoves, ⟨u, hu, hselector.trans (by decide), hquery.trans (by decide), hu'⟩, ?_⟩
  exact ⟨_, hmoved darkLast hmoves, rfl⟩

end Theme

end DocSite
