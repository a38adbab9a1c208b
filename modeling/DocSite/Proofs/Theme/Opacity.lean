import DocSite.Proofs.Number.Layout
import DocSite.Proofs.Theme.References

/-!
# Opacities stay within the colors

  A color with an opacity is a color again: the function and the variable are
  those of the color it was made from, and its opacity is the new one. So a second
  opacity replaces the first, and a scan for references finds the same variable
  before and after.
-/

namespace DocSite

open DocSite.Text

namespace Color

open Variables

/-! ## Colors over a variable -/

/-- What stands between the slash and the last parenthesis of a color. -/
def IsAlpha (alpha : List Char) : Prop := alpha ≠ [] ∧ '(' ∉ alpha ∧ ')' ∉ alpha

theorem function?_append {func : String} (h : func ∈ functions) (rest : List Char) :
    function? (func.toList ++ '(' :: rest) = some (func, rest) := by
  have hparen : ∀ func ∈ functions, '(' ∉ func.toList := by decide
  simp only [function?, splitOnce_append (hparen func h), Option.bind_eq_bind, Option.bind_some,
    String.ofList_toList, List.contains_iff_mem.2 h, if_true]

theorem varName?_append {name : List Char} (h : IsVarName name) {rest : List Char}
    (hrest : ∀ c ∈ rest.head?, isNameChar c = false ∧ isBlank c = false) :
    varName? ("var(--".toList ++ (name ++ rest)) = some (String.ofList name, rest) := by
  have hname : name? (trimLeft ("--".toList ++ (name ++ rest))) = some (name, rest) :=
    name?_eq_some_iff.2 ⟨rfl, h, fun c hc => (hrest c hc).1⟩
  have htrim : trimLeft rest = rest := dropWhile_of_head fun c hc => (hrest c hc).2
  have hsplit : "var(--".toList ++ (name ++ rest) =
      "var(".toList ++ ("--".toList ++ (name ++ rest)) := rfl
  rw [varName?, hsplit, dropStart?_append]
  simp only [Option.bind_eq_bind, Option.bind_some, hname, htrim]
  rfl

theorem lastArgument?_append {inner : List Char} (h : IsAlpha inner) :
    lastArgument? (inner ++ [')']) = some inner := by
  have hany : (inner.any fun c => c == '(' || c == ')') = false := by
    rw [List.any_eq_false]
    intro c hc
    have hopen : c ≠ '(' := fun e => h.2.1 (e ▸ hc)
    have hclose : c ≠ ')' := fun e => h.2.2 (e ▸ hc)
    simp [hopen, hclose]
  simp only [lastArgument?, dropEnd?_append, Option.bind_eq_bind, Option.bind_some, hany]
  rfl

/-- What is written as a color function over a variable with an opacity is read as one. -/
theorem functionOverVar?_append {func : String} {name alpha : List Char} (hfunc : func ∈ functions)
    (hname : IsVarName name) (halpha : IsAlpha alpha) :
    functionOverVar? (func.toList ++ '(' :: ("var(--".toList ++ (name ++ (") /".toList ++
      (alpha ++ [')']))))) = some (.function func (String.ofList name)) := by
  have hargument : trimLeft ("var(--".toList ++ (name ++ (") /".toList ++ (alpha ++ [')'])))) =
      "var(--".toList ++ (name ++ (") /".toList ++ (alpha ++ [')']))) := rfl
  have hvar : varName? ("var(--".toList ++ (name ++ (") /".toList ++ (alpha ++ [')'])))) =
      some (String.ofList name, ") /".toList ++ (alpha ++ [')'])) := by
    apply varName?_append hname
    intro c hc
    obtain rfl : ')' = c := by simpa using hc
    decide
  have hclose : dropStart? [')'] (") /".toList ++ (alpha ++ [')'])) =
      some (" /".toList ++ (alpha ++ [')'])) := dropStart?_append [')'] _
  have hslash : trimLeft (" /".toList ++ (alpha ++ [')'])) = '/' :: (alpha ++ [')']) := rfl
  have hempty : alpha.isEmpty = false := by simpa using halpha.1
  simp only [functionOverVar?, function?_append hfunc, hargument, hvar, hclose, hslash,
    lastArgument?_append halpha, hempty, Option.bind_eq_bind, Option.bind_some]
  rfl

theorem mem_of_function? {cs rest : List Char} {func : String}
    (h : function? cs = some (func, rest)) : func ∈ functions := by
  obtain ⟨⟨name, after⟩, -, h⟩ := Option.bind_eq_some_iff.1 h
  simp only at h
  split at h
  · rename_i hmem
    obtain ⟨rfl, -⟩ := Prod.mk.inj (Option.some.inj h)
    exact List.contains_iff_mem.1 hmem
  · simp at h

theorem isVarName_of_varName? {cs rest : List Char} {name : String}
    (h : varName? cs = some (name, rest)) : IsVarName name.toList := by
  obtain ⟨tail, -, h⟩ := Option.bind_eq_some_iff.1 h
  obtain ⟨⟨found, after⟩, hname, h⟩ := Option.bind_eq_some_iff.1 h
  obtain ⟨rfl, -⟩ := Prod.mk.inj (Option.some.inj h)
  obtain ⟨-, hvar, -⟩ := name?_eq_some_iff.1 hname
  rwa [String.toList_ofList]

/-- A color function over a variable names one of the functions and a variable. -/
theorem of_functionOverVar? {cs : List Char} {func name : String}
    (h : functionOverVar? cs = some (.function func name)) :
    func ∈ functions ∧ IsVarName name.toList := by
  obtain ⟨⟨func', arguments⟩, hfunc, h⟩ := Option.bind_eq_some_iff.1 h
  obtain ⟨⟨name', rest⟩, hname, h⟩ := Option.bind_eq_some_iff.1 h
  obtain ⟨after, -, h⟩ := Option.bind_eq_some_iff.1 h
  have hkind : ColorKind.function func' name' = .function func name := by
    split at h
    · exact Option.some.inj h
    · obtain ⟨inner, -, h⟩ := Option.bind_eq_some_iff.1 h
      split at h
      · simp at h
      · exact Option.some.inj h
    · simp at h
  obtain ⟨rfl, rfl⟩ := ColorKind.function.inj hkind
  exact ⟨mem_of_function? hfunc, isVarName_of_varName? hname⟩

/-- Only a color function over a variable is classified as one. -/
theorem kind?_eq_function_iff {text func name : String} :
    kind? text = some (.function func name) ↔
      functionOverVar? (trimBoth text.toList) = some (.function func name) := by
  unfold kind?
  constructor
  · intro h
    cases hfunction : functionOverVar? (trimBoth text.toList) with
    | some k => simpa [hfunction] using h
    | none =>
      -- All forms that are tried later have other kinds.
      cases hbare : bareVar? (trimBoth text.toList) with
      | some k =>
        obtain ⟨found, rfl, -⟩ := readsOne_of_bareVar? hbare
        simp [hfunction, hbare] at h
      | none =>
        simp only [hfunction, hbare, Option.orElse] at h
        split at h
        · simp at h
        · split at h
          · simp at h
          · split at h <;> simp at h
  · intro h
    simp [h]

/-! ## Opacities -/

theorem kind_eq_ok_iff_kind? {c : String} {k : ColorKind} : kind c = .ok k ↔ kind? c = some k := by
  unfold kind
  cases kind? c with
  | none => simp
  | some found => simp

/-- The text of an opacity has no parenthesis, so it can stand where a color has its opacity. -/
theorem isAlpha_opacityText (percent : Nat) : IsAlpha (' ' :: (opacityText percent).toList) := by
  have hplain := (Binary64.ofRatio false (min percent 100) 100).isPlainMark_text
  have hmark : ∀ c, ¬Shortest.IsPlainMark c → c ≠ ' ' → c ∉ ' ' :: (opacityText percent).toList := by
    intro c hc hspace hmem
    rcases List.mem_cons.1 hmem with h | h
    · exact hspace h
    · exact hc (hplain c h)
  exact ⟨by simp, hmark '(' (by decide) (by decide), hmark ')' (by decide) (by decide)⟩

/-- The text of a color function over a variable with an opacity. -/
def textWithAlpha (func name : String) (percent : Nat) : String :=
  func ++ "(var(--" ++ name ++ ") / " ++ opacityText percent ++ ")"

theorem withAlpha_of_kind {c func name : String} (h : kind c = .ok (.function func name))
    (percent : Nat) : withAlpha c percent = .ok (textWithAlpha func name percent) := by
  simp only [withAlpha, h]
  rfl

/-- Nothing but a color function over a variable can have an opacity. -/
theorem exists_kind_of_withAlpha {c text : String} {percent : Nat}
    (h : withAlpha c percent = .ok text) : ∃ func name, kind c = .ok (.function func name) := by
  unfold withAlpha at h
  cases hkind : kind c with
  | error e => simp [hkind, bind, Except.bind] at h
  | ok k =>
    cases k with
    | function func name => exact ⟨func, name, rfl⟩
    | _ => simp [hkind, bind, Except.bind] at h

/-- The name of a color function begins with a letter. -/
theorem head_function : ∀ func ∈ functions, func.toList.head?.map isBlank = some false := by decide

/-- A color function over a variable keeps its function and its variable when it is given an
opacity. -/
theorem kind_textWithAlpha {func name : String} (hfunc : func ∈ functions)
    (hname : IsVarName name.toList) (percent : Nat) :
    kind (textWithAlpha func name percent) = .ok (.function func name) := by
  have htext : (textWithAlpha func name percent).toList =
      func.toList ++ '(' :: ("var(--".toList ++ (name.toList ++ (") /".toList ++
        (' ' :: (opacityText percent).toList ++ [')'])))) := by
    simp [textWithAlpha]
  -- The text begins with a letter of the function and ends with a parenthesis.
  have htrim : trimBoth (textWithAlpha func name percent).toList =
      (textWithAlpha func name percent).toList := by
    obtain ⟨first, hfirst, hblank⟩ := Option.map_eq_some_iff.1 (head_function func hfunc)
    apply trimBoth_of_ends
    · intro c hc
      rw [htext, List.head?_append, hfirst, Option.some_or] at hc
      rwa [← Option.some.inj hc]
    · intro c hc
      rw [textWithAlpha, String.toList_append, List.getLast?_append] at hc
      obtain rfl : ')' = c := by simpa using hc
      decide
  rw [kind_eq_ok_iff_kind?, kind?_eq_function_iff, htrim, htext,
    functionOverVar?_append hfunc hname (isAlpha_opacityText percent), String.ofList_toList]

/-- Opacities stay within the colors. Exactly the color functions over a variable can have one;
the result is a color of the same function and variable, whose own opacity a second one replaces,
and a scan finds the variable in it and nothing else. In every color a scan finds just the
variable that the color reads, if it reads one. -/
theorem withAlpha_closed (c : String) (a b : Nat) :
    ((∃ text, withAlpha c a = .ok text) ↔ ∃ func name, kind c = .ok (.function func name)) ∧
    (∀ func name, kind c = .ok (.function func name) →
      ∃ text, withAlpha c a = .ok text ∧ kind text = .ok (.function func name) ∧
        withAlpha text b = withAlpha c b ∧ Variables.refs text = [name]) ∧
    (∀ k, kind c = .ok k → Variables.refs c = (var? c).toList) := by
  refine ⟨⟨?_, ?_⟩, ?_, ?_⟩
  · rintro ⟨text, htext⟩
    exact exists_kind_of_withAlpha htext
  · rintro ⟨func, name, hkind⟩
    exact ⟨_, withAlpha_of_kind hkind a⟩
  · intro func name hkind
    obtain ⟨hfunc, hname⟩ :=
      of_functionOverVar? (kind?_eq_function_iff.1 (kind_eq_ok_iff_kind?.1 hkind))
    have hagain : kind (textWithAlpha func name a) = .ok (.function func name) :=
      kind_textWithAlpha hfunc hname a
    refine ⟨textWithAlpha func name a, withAlpha_of_kind hkind a, hagain, ?_, ?_⟩
    · -- The second opacity is written over the same function and variable.
      rw [withAlpha_of_kind hagain b, withAlpha_of_kind hkind b]
    · have hread := kind_eq_ok_iff_kind?.1 hagain
      simp [refs_eq_of_kind? hread, var?, hread]
  · intro k hkind
    exact refs_eq_of_kind? (kind_eq_ok_iff_kind?.1 hkind)

end Color

end DocSite
