import DocSite.Proofs.Theme.Length
import DocSite.Theme.Color
import DocSite.Theme.Radius

/-!
# The root variables that a token reads

  Colors and radii are read by their own small grammars, and each value reads at
  most one root variable. A plain scan of the text for references finds that
  variable, once, and nothing more: what may follow its name, an opacity, a fallback
  or an offset, has no parenthesis that could open another reference.
-/

namespace DocSite

open DocSite.Text

namespace Variables

/-! ## Scanning -/

/-- A reference begins with `var(`. -/
theorem reference?_eq_none {cs : List Char} (h : ∀ tail, cs ≠ "var(".toList ++ tail) :
    reference? cs = none := by
  rw [Option.eq_none_iff_forall_ne_some]
  intro found href
  obtain ⟨tail, hstart, -⟩ := Option.bind_eq_some_iff.1 href
  exact h tail (dropStart?_eq_some_iff.1 hstart)

/-- A name behind `var(` makes a reference. -/
theorem reference?_append {tail name rest : List Char}
    (h : name? (trimLeft tail) = some (name, rest)) :
    reference? ("var(".toList ++ tail) = some (name, rest) := by
  rw [reference?, dropStart?_append]
  exact h

/-- A scan passes over a text in which no reference can begin. -/
theorem references_append {before : List Char} (h : 'v' ∉ before) (room : Nat) (cs : List Char) :
    references (before.length + room) (before ++ cs) = references room cs := by
  induction before with
  | nil => simp
  | cons c before ih =>
    have hnone : reference? (c :: (before ++ cs)) = none := by
      refine reference?_eq_none fun tail htail => ?_
      have hc : c = 'v' := (List.cons.inj htail).1
      exact h (by simp [hc])
    have hbefore : 'v' ∉ before := fun hmem => h (List.mem_cons_of_mem _ hmem)
    rw [List.length_cons, Nat.add_right_comm, List.cons_append, references, hnone]
    exact ih hbefore

/-- A text without an opening parenthesis has no references. -/
theorem references_of_no_paren {cs : List Char} (h : '(' ∉ cs) (room : Nat) :
    references room cs = [] := by
  induction cs generalizing room with
  | nil => cases room <;> rfl
  | cons c cs ih =>
    cases room with
    | zero => rfl
    | succ room =>
      have hnone : reference? (c :: cs) = none := by
        refine reference?_eq_none fun tail htail => h ?_
        rw [htail]
        simp
      rw [references, hnone]
      exact ih (fun hmem => h (List.mem_cons_of_mem _ hmem)) room

/-! ## Texts with one reference -/

/-- A text reads a variable and no other: no reference begins before it, and none can be opened
after it. -/
def ReadsOne (name : List Char) (cs : List Char) : Prop :=
  ∃ before tail after, cs = before ++ "var(".toList ++ tail ∧ 'v' ∉ before ∧
    name? (trimLeft tail) = some (name, after) ∧ '(' ∉ after

/-- A text reads no variable. -/
def ReadsNone (cs : List Char) : Prop :=
  ∃ before after, cs = before ++ after ∧ 'v' ∉ before ∧ '(' ∉ after

/-- A scan of a text that reads one variable finds that variable, once. -/
theorem ReadsOne.refs_eq {name text : String} (h : ReadsOne name.toList text.toList) :
    refs text = [name] := by
  obtain ⟨before, tail, after, htext, hbefore, hname, hafter⟩ := h
  have hroom : text.length + 1 = before.length + (("var(".toList ++ tail).length + 1) := by
    rw [← String.length_toList, htext]
    simp only [List.length_append]
    omega
  have href : reference? ('v' :: ("ar(".toList ++ tail)) = some (name.toList, after) :=
    reference?_append hname
  rw [refs, hroom, htext, List.append_assoc, references_append hbefore]
  show references (_ + 1) ('v' :: ("ar(".toList ++ tail)) = [name]
  rw [references, href]
  simp only [references_of_no_paren hafter, String.ofList_toList]

/-- A scan of a text that reads no variable finds none. -/
theorem ReadsNone.refs_eq {text : String} (h : ReadsNone text.toList) : refs text = [] := by
  obtain ⟨before, after, htext, hbefore, hafter⟩ := h
  have hroom : text.length + 1 = before.length + (after.length + 1) := by
    rw [← String.length_toList, htext, List.length_append]
    omega
  rw [refs, hroom, htext, references_append hbefore]
  exact references_of_no_paren hafter _

/-! ## Blanks around a text -/

theorem not_mem_of_blank {x : Char} (hx : isBlank x = false) {blanks : List Char}
    (h : ∀ c ∈ blanks, isBlank c = true) : x ∉ blanks := by
  intro hmem
  simp [h x hmem] at hx

/-- Blanks are no part of a name. -/
theorem not_isNameChar_of_blank {c : Char} (h : isBlank c = true) : isNameChar c = false := by
  rw [Bool.eq_false_iff]
  intro hname
  have hblank : isBlank c = false := (isGraphic_of_isNameChar hname).not_blank
  rw [h] at hblank
  cases hblank

/-- A name of a variable: one or more letters, digits, `_` and `-`. -/
def IsVarName (name : List Char) : Prop := name ≠ [] ∧ ∀ c ∈ name, isNameChar c = true

-- Left to itself, Lean would go through all characters there are.
instance (name : List Char) : Decidable (IsVarName name) :=
  have : Decidable (∀ c ∈ name, isNameChar c = true) := List.decidableBAll _ name
  inferInstanceAs (Decidable (_ ∧ _))

/-- A name is the longest run of name characters behind two hyphens. -/
theorem name?_eq_some_iff {cs name rest : List Char} :
    name? cs = some (name, rest) ↔ cs = '-' :: '-' :: (name ++ rest) ∧ IsVarName name ∧
      ∀ c ∈ rest.head?, isNameChar c = false := by
  constructor
  · intro h
    obtain ⟨tail, hstart, h⟩ := Option.bind_eq_some_iff.1 h
    simp only at h
    split at h
    · simp at h
    · rename_i hne
      have hspan : tail.span isNameChar = (name, rest) := Option.some.inj h
      obtain ⟨rfl, hname, hrest⟩ := span_eq_iff.1 hspan
      rw [hspan] at hne
      exact ⟨dropStart?_eq_some_iff.1 hstart, ⟨by simpa using hne, hname⟩, hrest⟩
  · rintro ⟨rfl, ⟨hne, hname⟩, hrest⟩
    have hspan : (name ++ rest).span isNameChar = (name, rest) :=
      span_eq_iff.2 ⟨rfl, hname, hrest⟩
    have hempty : name.isEmpty = false := by simpa using hne
    simp only [name?, dropStart?, if_true, Option.bind_eq_bind, Option.bind_some, hspan, hempty]
    rfl

/-- A name ends before the blanks behind it. -/
theorem name?_append {cs name rest back : List Char} (h : name? cs = some (name, rest))
    (hback : ∀ c ∈ back, isBlank c = true) : name? (cs ++ back) = some (name, rest ++ back) := by
  obtain ⟨rfl, hname, hrest⟩ := name?_eq_some_iff.1 h
  refine name?_eq_some_iff.2 ⟨by simp, hname, ?_⟩
  intro c hc
  cases rest with
  | nil => exact not_isNameChar_of_blank (hback c (List.mem_of_mem_head? hc))
  | cons d rest => exact hrest c hc

/-- Blanks around a text add no reference. -/
theorem ReadsOne.of_trimBoth {name cs : List Char} (h : ReadsOne name (trimBoth cs)) :
    ReadsOne name cs := by
  obtain ⟨front, back, hfront, hback, hcs⟩ := exists_trimBoth cs
  obtain ⟨before, tail, after, heq, hbefore, hname, hafter⟩ := h
  have hv : 'v' ∉ front := not_mem_of_blank (by decide) hfront
  have hparen : '(' ∉ back := not_mem_of_blank (by decide) hback
  refine ⟨front ++ before, tail ++ back, after ++ back, ?_, ?_, ?_, ?_⟩
  · rw [hcs, heq]
    simp
  · simp [hbefore, hv]
  · have hne : trimLeft tail ≠ [] := by
      intro hnil
      simp [hnil, name?, dropStart?] at hname
    rw [trimLeft_append hne]
    exact name?_append hname hback
  · simp [hafter, hparen]

theorem ReadsNone.of_trimBoth {cs : List Char} (h : ReadsNone (trimBoth cs)) : ReadsNone cs := by
  obtain ⟨front, back, hfront, hback, hcs⟩ := exists_trimBoth cs
  obtain ⟨before, after, heq, hbefore, hafter⟩ := h
  have hv : 'v' ∉ front := not_mem_of_blank (by decide) hfront
  have hparen : '(' ∉ back := not_mem_of_blank (by decide) hback
  refine ⟨front ++ before, after ++ back, ?_, ?_, ?_⟩
  · rw [hcs, heq]
    simp
  · simp [hbefore, hv]
  · simp [hafter, hparen]

end Variables

/-! ## Colors -/

namespace Color

open Variables

/-- No name of a color function has a letter that could begin a reference. -/
theorem not_mem_function : ∀ name ∈ functions, 'v' ∉ name.toList := by decide

theorem of_function? {cs rest : List Char} {func : String} (h : function? cs = some (func, rest)) :
    ∃ before, cs = before ++ rest ∧ 'v' ∉ before := by
  obtain ⟨⟨name, after⟩, hcut, h⟩ := Option.bind_eq_some_iff.1 h
  simp only at h
  split at h
  · rename_i hmem
    obtain ⟨rfl, rfl⟩ := Prod.mk.inj (Option.some.inj h)
    obtain ⟨rfl, -⟩ := splitOnce_eq_some hcut
    refine ⟨name ++ ['('], by simp, ?_⟩
    have hname := not_mem_function _ (List.contains_iff_mem.1 hmem)
    simp only [String.toList_ofList] at hname
    simp [hname]
  · simp at h

/-- A variable name behind `var(` begins a text that reads only this variable, if no parenthesis
is opened further on. -/
theorem readsOne_of_varName? {before cs rest : List Char} {name : String} (hbefore : 'v' ∉ before)
    (h : varName? cs = some (name, rest)) (hrest : '(' ∉ rest) :
    ReadsOne name.toList (before ++ cs) := by
  obtain ⟨tail, hstart, h⟩ := Option.bind_eq_some_iff.1 h
  obtain ⟨⟨found, after⟩, hname, h⟩ := Option.bind_eq_some_iff.1 h
  obtain ⟨rfl, rfl⟩ := Prod.mk.inj (Option.some.inj h)
  obtain ⟨blanks, hblanks, hafter⟩ := exists_trimLeft after
  refine ⟨before, tail, after, ?_, hbefore, by simpa using hname, ?_⟩
  · rw [dropStart?_eq_some_iff.1 hstart, List.append_assoc]
  · have hparen : '(' ∉ blanks := not_mem_of_blank (by decide) hblanks
    rw [hafter]
    simp [hparen, hrest]

theorem not_mem_of_lastArgument? {cs inner : List Char} (h : lastArgument? cs = some inner) :
    '(' ∉ cs := by
  obtain ⟨text, htext, h⟩ := Option.bind_eq_some_iff.1 h
  rw [eq_append_of_dropEnd? htext]
  split at h
  · simp at h
  · rename_i hnone
    simp only [List.any_eq_true, not_exists, not_and] at hnone
    simp only [List.mem_append, List.mem_singleton, not_or]
    exact ⟨fun hmem => hnone _ hmem (by simp), by decide⟩

/-- An opening parenthesis is not lost by trimming. -/
theorem not_mem_of_trimLeft {cs : List Char} (h : '(' ∉ trimLeft cs) : '(' ∉ cs := by
  obtain ⟨blanks, hblanks, hcs⟩ := exists_trimLeft cs
  have hparen : '(' ∉ blanks := not_mem_of_blank (by decide) hblanks
  rw [hcs]
  simp [hparen, h]

theorem readsOne_of_functionOverVar? {cs : List Char} {kind : ColorKind}
    (hkind : functionOverVar? cs = some kind) :
    ∃ func name, kind = .function func name ∧ ReadsOne name.toList cs := by
  obtain ⟨⟨func, arguments⟩, hfunc, h⟩ := Option.bind_eq_some_iff.1 hkind
  obtain ⟨⟨name, rest⟩, hname, h⟩ := Option.bind_eq_some_iff.1 h
  obtain ⟨after, hclose, h⟩ := Option.bind_eq_some_iff.1 h
  obtain ⟨before, rfl, hbefore⟩ := of_function? hfunc
  obtain ⟨blanks, hblanks, harguments⟩ := exists_trimLeft arguments
  -- The name of the function and the blanks behind its parenthesis do not begin a variable.
  have hv : 'v' ∉ before ++ blanks := by
    simp [hbefore, not_mem_of_blank (x := 'v') (by decide) hblanks]
  -- Behind the variable stands nothing, or an opacity without a parenthesis.
  have hafter : kind = .function func name ∧ '(' ∉ trimLeft after := by
    split at h
    · rename_i hend
      exact ⟨(Option.some.inj h).symm, by rw [hend]; decide⟩
    · rename_i alpha hend
      obtain ⟨inner, hlast, h⟩ := Option.bind_eq_some_iff.1 h
      split at h
      · simp at h
      · refine ⟨(Option.some.inj h).symm, ?_⟩
        rw [hend]
        simp [not_mem_of_lastArgument? hlast]
    · simp at h
  refine ⟨func, name, hafter.1, ?_⟩
  have hrest : '(' ∉ rest := by
    rw [dropStart?_eq_some_iff.1 hclose]
    simp [not_mem_of_trimLeft hafter.2]
  rw [harguments, ← List.append_assoc]
  exact readsOne_of_varName? hv hname hrest

theorem readsOne_of_bareVar? {cs : List Char} {kind : ColorKind} (h : bareVar? cs = some kind) :
    ∃ name, kind = .variable name ∧ ReadsOne name.toList cs := by
  obtain ⟨⟨name, rest⟩, hname, h⟩ := Option.bind_eq_some_iff.1 h
  have hrest : kind = .variable name ∧ '(' ∉ rest := by
    simp only at h
    split at h
    · exact ⟨(Option.some.inj h).symm, by decide⟩
    · obtain ⟨inner, hlast, rfl⟩ := Option.map_eq_some_iff.1 h
      exact ⟨rfl, by simp [not_mem_of_lastArgument? hlast]⟩
    · simp at h
  have hreads : ReadsOne name.toList ([] ++ cs) :=
    readsOne_of_varName? List.not_mem_nil hname hrest.2
  exact ⟨name, hrest.1, hreads⟩

/-- A unit and a number have no parenthesis. -/
theorem mem_dropUnit {cs : List Char} (h : '(' ∈ cs) : '(' ∈ dropUnit cs := by
  unfold dropUnit
  cases hunit : ["%", "deg", "turn", "rad"].findSome? fun unit => dropStart? unit.toList cs with
  | none => exact h
  | some rest =>
    obtain ⟨unit, hmem, hrest⟩ := List.exists_of_findSome?_eq_some hunit
    have hparen : ∀ unit ∈ ["%", "deg", "turn", "rad"], '(' ∉ unit.toList := by decide
    rw [dropStart?_eq_some_iff.1 hrest, List.mem_append] at h
    exact h.resolve_left (hparen unit hmem)

theorem mem_of_channel? {cs rest : List Char} (h : channel? cs = some rest) (hmem : '(' ∈ cs) :
    '(' ∈ rest := by
  -- A hyphen in front takes no parenthesis away.
  have hsign : '(' ∈ dropFirst '-' cs := by
    cases cs with
    | nil => simp at hmem
    | cons c cs =>
      rw [dropFirst]
      split
      · rename_i hc
        rw [hc] at hmem
        simpa using hmem
      · exact hmem
  unfold channel? at h
  cases hspan : (dropFirst '-' cs).span fun c => c.isDigit || c == '.' with
  | mk digits tail =>
    obtain ⟨heq, hdigits, -⟩ := span_eq_iff.1 hspan
    simp only [hspan] at h
    split at h
    · rw [← Option.some.inj h]
      apply mem_dropUnit
      rw [heq, List.mem_append] at hsign
      exact hsign.resolve_left fun hd => absurd (hdigits _ hd) (by decide)
    · rw [dropStart?_eq_some_iff.1 h, List.mem_append] at hmem
      exact hmem.resolve_left (by decide)

/-- Channels hold no parenthesis but the one that ends the value. -/
theorem not_mem_of_areChannels {room : Nat} {cs : List Char} (h : areChannels room cs = true) :
    '(' ∉ cs := by
  induction room generalizing cs with
  | zero => simp [areChannels] at h
  | succ room ih =>
    rw [areChannels] at h
    intro hmem
    split at h
    · simp at h
    · rename_i rest hchannel
      -- A parenthesis cannot stand in the channel, so it would stand behind it.
      have hrest : '(' ∈ trimLeft rest := by
        by_contra hnot
        exact not_mem_of_trimLeft hnot (mem_of_channel? hchannel hmem)
      split at h
      · rename_i hend
        rw [hend] at hrest
        simp at hrest
      · rename_i tail hend
        rw [hend] at hrest
        exact not_mem_of_trimLeft (ih h) (by simpa using hrest)
      · rename_i tail hend
        rw [hend] at hrest
        exact not_mem_of_trimLeft (ih h) (by simpa using hrest)
      · exact ih h hrest

theorem readsNone_of_isLiteral {cs : List Char} (h : isLiteral cs = true) : ReadsNone cs := by
  unfold isLiteral at h
  split at h
  · rename_i func rest hfunc
    obtain ⟨before, rfl, hbefore⟩ := of_function? hfunc
    exact ⟨before, rest, rfl, hbefore, not_mem_of_trimLeft (not_mem_of_areChannels h)⟩
  · simp at h

theorem readsNone_of_isHex {cs : List Char} (h : isHex cs = true) : ReadsNone cs := by
  unfold isHex at h
  split at h
  · rename_i digits
    simp only [Bool.and_eq_true, List.all_eq_true] at h
    refine ⟨[], _, rfl, by simp, ?_⟩
    simp only [List.mem_cons, not_or]
    exact ⟨by decide, fun hmem => absurd (h.2 _ hmem) (by decide)⟩
  · simp at h

theorem readsNone_of_keyword {cs : List Char} (h : keywords.contains (String.ofList cs) = true) :
    ReadsNone cs := by
  have hparen : ∀ word ∈ keywords, '(' ∉ word.toList := by decide
  have hcs := hparen _ (List.contains_iff_mem.1 h)
  rw [String.toList_ofList] at hcs
  exact ⟨[], cs, rfl, by simp, hcs⟩

/-- The form of a color says which variable it reads. -/
theorem reads_of_kind? {text : String} {kind : ColorKind} (h : kind? text = some kind) :
    (∃ name, var? text = some name ∧ ReadsOne name.toList text.toList) ∨
      (var? text = none ∧ ReadsNone text.toList) := by
  unfold var?
  rw [h]
  unfold kind? at h
  cases hfunction : functionOverVar? (trimBoth text.toList) with
  | some k =>
    obtain ⟨func, name, rfl, hreads⟩ := readsOne_of_functionOverVar? hfunction
    obtain rfl : _ = kind := by simpa [hfunction] using h
    exact .inl ⟨name, rfl, hreads.of_trimBoth⟩
  | none =>
    cases hbare : bareVar? (trimBoth text.toList) with
    | some k =>
      obtain ⟨name, rfl, hreads⟩ := readsOne_of_bareVar? hbare
      obtain rfl : _ = kind := by simpa [hfunction, hbare] using h
      exact .inl ⟨name, rfl, hreads.of_trimBoth⟩
    | none =>
      -- The other forms are over fixed texts.
      right
      simp only [hfunction, hbare, Option.orElse] at h
      split at h
      · rename_i hhex
        obtain rfl := Option.some.inj h
        exact ⟨rfl, (readsNone_of_isHex hhex).of_trimBoth⟩
      · split at h
        · rename_i hliteral
          obtain rfl := Option.some.inj h
          exact ⟨rfl, (readsNone_of_isLiteral hliteral).of_trimBoth⟩
        · split at h
          · rename_i hkeyword
            obtain rfl := Option.some.inj h
            exact ⟨rfl, (readsNone_of_keyword hkeyword).of_trimBoth⟩
          · simp at h

/-- A scan of a color finds the variable that the color reads, and no other. -/
theorem refs_eq_of_kind? {text : String} {kind : ColorKind} (h : kind? text = some kind) :
    refs text = (var? text).toList := by
  rcases reads_of_kind? h with ⟨name, hvar, hreads⟩ | ⟨hvar, hreads⟩
  · rw [hreads.refs_eq, hvar, Option.toList_some]
  · rw [hreads.refs_eq, hvar, Option.toList_none]

theorem var?_of_mem_refs {text name : String} {kind : ColorKind} (h : kind? text = some kind)
    (hname : name ∈ refs text) : var? text = some name := by
  rw [refs_eq_of_kind? h, Option.mem_toList] at hname
  exact hname

end Color

/-! ## Radii -/

namespace Length

/-- A length has no parenthesis. -/
theorem not_mem_of_read? {cs : List Char} {length : Length} (h : read? cs = some length) :
    '(' ∉ cs := by
  intro hmem
  have hparen := chars_of_read? h '(' hmem
  revert hparen
  decide

end Length

namespace RadiusForm

open Variables

theorem varName?_of_rootVar? {cs rest : List Char} {name : String}
    (h : rootVar? cs = some (name, rest)) : Color.varName? cs = some (name, ')' :: rest) := by
  obtain ⟨tail, hstart, h⟩ := Option.bind_eq_some_iff.1 h
  obtain ⟨⟨found, after⟩, hname, h⟩ := Option.bind_eq_some_iff.1 h
  obtain ⟨rest', hclose, h⟩ := Option.bind_eq_some_iff.1 h
  obtain ⟨rfl, rfl⟩ := Prod.mk.inj (Option.some.inj h)
  have hafter : trimLeft after = ')' :: rest' := dropStart?_eq_some_iff.1 hclose
  simp only [Color.varName?, hstart, hname, Option.bind_eq_bind, Option.bind_some, hafter]
  rfl

theorem readsOne_of_rootVar? {before cs rest : List Char} {name : String} (hbefore : 'v' ∉ before)
    (h : rootVar? cs = some (name, rest)) (hrest : '(' ∉ rest) :
    ReadsOne name.toList (before ++ cs) :=
  Color.readsOne_of_varName? hbefore (varName?_of_rootVar? h) (by simp [hrest])

/-- What follows the variable of a sum, a sign and a length, opens no parenthesis. -/
theorem readsOne_of_sum? {cs offset : List Char} {name : String} {minus : Bool}
    (hsum : sum? cs = some (name, minus, offset)) : ReadsOne name.toList cs := by
  obtain ⟨inside, hstart, h⟩ := Option.bind_eq_some_iff.1 hsum
  obtain ⟨⟨found, rest⟩, hvar, h⟩ := Option.bind_eq_some_iff.1 h
  have hrest : found = name ∧ '(' ∉ trimLeft rest := by
    simp only at h
    split at h
    · rename_i sign tail hsign
      split at h
      · rename_i hplus
        cases hdigits : (trimLeft tail).span fun c => c.isDigit || c == '.' with
        | mk digits after =>
          cases hunit : after.span Char.isLower with
          | mk unit last =>
            simp only [hdigits, hunit] at h
            split at h
            · simp at h
            · split at h
              · rename_i hlast
                obtain ⟨rfl, -⟩ := Prod.mk.inj (Option.some.inj h)
                -- No parenthesis stands behind the unit, so none stands in front of it down to the
                -- sign.
                have hparen : '(' ∉ last := Color.not_mem_of_trimLeft (by rw [hlast]; decide)
                rw [← Text.mem_iff_of_span (by decide) hunit,
                  ← Text.mem_iff_of_span (by decide) hdigits] at hparen
                refine ⟨rfl, ?_⟩
                rw [hsign]
                simp only [List.mem_cons, not_or]
                refine ⟨?_, Color.not_mem_of_trimLeft hparen⟩
                rintro rfl
                simp at hplus
              · simp at h
      · simp at h
    · simp at h
  obtain ⟨blanks, hblanks, hinside⟩ := exists_trimLeft inside
  have hv : 'v' ∉ "calc(".toList ++ blanks := by
    have hblank : 'v' ∉ blanks := not_mem_of_blank (by decide) hblanks
    simp [hblank]
  rw [dropStart?_eq_some_iff.1 hstart, hinside, ← List.append_assoc, ← hrest.1]
  exact readsOne_of_rootVar? hv hvar (Color.not_mem_of_trimLeft hrest.2)

/-- The form of a radius says which variable it reads. -/
theorem reads_of_parse {text : String} {form : RadiusForm} (h : parse text = .ok form) :
    (∃ name minus offset, form = .fromVar name minus offset ∧
      ReadsOne name.toList text.toList) ∨ ReadsNone text.toList := by
  unfold parse at h
  simp only at h
  split at h
  · rename_i name hvar
    have hreads : ReadsOne name.toList ([] ++ trimBoth text.toList) :=
      readsOne_of_rootVar? List.not_mem_nil hvar List.not_mem_nil
    cases h
    exact .inl ⟨name, _, _, rfl, hreads.of_trimBoth⟩
  · split at h
    · rename_i name minus offset hsum
      split at h
      · cases h
        exact .inl ⟨name, _, _, rfl, (readsOne_of_sum? hsum).of_trimBoth⟩
      · simp at h
    · split at h
      · rename_i length hlength
        -- A length alone reads no variable.
        right
        apply ReadsNone.of_trimBoth
        exact ⟨[], _, rfl, by simp, Length.not_mem_of_read? hlength⟩
      · simp at h

/-- A scan of a radius finds no variable but the one that the radius reads. -/
theorem fromVar_of_mem_refs {text name : String} {form : RadiusForm} (h : parse text = .ok form)
    (hname : name ∈ refs text) : ∃ minus offset, form = .fromVar name minus offset := by
  rcases reads_of_parse h with ⟨found, minus, offset, rfl, hreads⟩ | hreads
  · rw [hreads.refs_eq] at hname
    obtain rfl := List.mem_singleton.1 hname
    exact ⟨minus, offset, rfl⟩
  · rw [hreads.refs_eq] at hname
    exact absurd hname List.not_mem_nil

end RadiusForm

end DocSite
