import DocSite.Proofs.Theme.ColorValidity

/-!
# What the check of a color table finds

  The check walks through the colors of a table in the order of their flat names
  and remembers where each flat name was met first. What it remembers is what the
  list so far says, so a color is reported as taken exactly when its flat name
  stands earlier in the list, and with the place of the first color of that name.
  Together with the other reports this makes the check sound and complete: it
  finds an error exactly where a rule for color tables is broken.
-/

namespace DocSite

open DocSite.Text

/-! ## Grammars of names -/

/-- Words of lower-case letters and digits, with a hyphen between neighbours. -/
def ShadeGrammar (name : String) : Prop :=
  ∃ words : List (List Char), words ≠ [] ∧
    (∀ word ∈ words, word ≠ [] ∧ ∀ c ∈ word, c.isLower = true ∨ c.isDigit = true) ∧
    name.toList = joinWith ['-'] words

/-- Such words, the first of them starting with a letter. -/
def TokenGrammar (name : String) : Prop :=
  ShadeGrammar name ∧ ∃ c ∈ name.toList.head?, c.isLower = true

theorem isShadeName_iff {name : String} : isShadeName name = true ↔ ShadeGrammar name := by
  have hword (word : List Char) :
      (!word.isEmpty && word.all fun c => c.isLower || c.isDigit) = true ↔
        word ≠ [] ∧ ∀ c ∈ word, c.isLower = true ∨ c.isDigit = true := by
    simp
  rw [isShadeName, List.all_eq_true]
  simp only [hword]
  constructor
  · intro h
    exact ⟨splitOn '-' name.toList, splitOn_ne_nil _ _, h, (joinWith_splitOn _ _).symm⟩
  · -- The cuts at the hyphens are the words that are asked for.
    intro h
    obtain ⟨words, hne, hwords, hname⟩ := h
    -- No word holds a hyphen, so the cuts give the words back.
    have hhyphen : ∀ word ∈ words, '-' ∉ word := by
      intro word hmem hc
      have hclass := (hwords word hmem).2 '-' hc
      revert hclass
      decide
    rw [hname, splitOn_joinWith hne hhyphen]
    exact hwords

theorem isTokenName_iff {name : String} : isTokenName name = true ↔ TokenGrammar name := by
  rw [isTokenName, Bool.and_eq_true, isShadeName_iff, TokenGrammar]
  cases name.toList.head? <;> simp

namespace ColorTokens

/-! ## Flat names with their places -/

/-- Every flat name with its place and its color, in order. -/
def placements (colors : ColorTokens) (field : FieldPath) : List (String × FieldPath × String) :=
  colors.tokens.entries.flatMap fun (name, token) => placed field name token

/-- The places aside, these are the flat names with their colors. -/
theorem map_placements (colors : ColorTokens) (field : FieldPath) :
    (colors.placements field).map (fun e => (e.1, e.2.2)) = colors.flatten := by
  rw [placements, flatten, List.map_flatMap]
  simp only [map_placed]

/-- The place where a flat name stands first. -/
def firstPlace? (name : String) (row : List (String × FieldPath × String)) : Option FieldPath :=
  (row.find? fun e => e.1 == name).map fun e => e.2.1

/-- The report that a flat name is taken. -/
def taken (name : String) (place first : FieldPath) : Diagnostic where
  field := place
  message := "token " ++ ticked name ++ " is already defined by " ++ first.text

/-- The report about an entry of a list, if its flat name stands before its place in the list:
it names the place where the name stands first. -/
def takenReport? (row : List (String × FieldPath × String)) :
    (String × FieldPath × String) × Nat → Option Diagnostic
  | ((name, place, _), k) => (firstPlace? name (row.take k)).map (taken name place)

/-- The reports about all entries whose flat names stand earlier in the list, in order. -/
def takenReports (row : List (String × FieldPath × String)) : List Diagnostic :=
  row.zipIdx.filterMap (takenReport? row)

/-! ## The walk -/

/-- What is remembered of the colors so far: the first place of each of their names. -/
def Records (seen : List (String × FieldPath)) (done : List (String × FieldPath × String)) : Prop :=
  ∀ name, Table.lookup name seen = firstPlace? name done

theorem firstPlace?_append (name : String) (done row : List (String × FieldPath × String)) :
    firstPlace? name (done ++ row) = (firstPlace? name done).or (firstPlace? name row) := by
  rw [firstPlace?, List.find?_append, Option.map_or]
  rfl

theorem firstPlace?_singleton (name flat : String) (place : FieldPath) (value : String) :
    firstPlace? name [(flat, place, value)] = if flat = name then some place else none := by
  by_cases hname : flat = name
  · simp [firstPlace?, hname]
  · simp [firstPlace?, hname]

/-- A name that is remembered need not be remembered again. -/
theorem Records.known {seen : List (String × FieldPath)}
    {done : List (String × FieldPath × String)} (h : Records seen done) {flat : String}
    {first : FieldPath} (hfirst : Table.lookup flat seen = some first) (place : FieldPath)
    (value : String) : Records seen (done ++ [(flat, place, value)]) := by
  intro name
  rw [firstPlace?_append, firstPlace?_singleton, ← h name]
  by_cases hname : flat = name
  · rw [← hname, hfirst, Option.some_or]
  · rw [if_neg hname, Option.or_none]

/-- A new name is remembered with its place. -/
theorem Records.new {seen : List (String × FieldPath)}
    {done : List (String × FieldPath × String)} (h : Records seen done) (flat : String)
    (place : FieldPath) (value : String) :
    Records (seen ++ [(flat, place)]) (done ++ [(flat, place, value)]) := by
  intro name
  rw [firstPlace?_append, firstPlace?_singleton, ← h name, Table.lookup_append]
  rfl

/-- Checking one row after another finds what checking both as one row finds. -/
theorem errors_checkColors_append (seen : List (String × FieldPath))
    (row row' : List (String × FieldPath × String)) :
    (checkColors seen (row ++ row')).1.errors =
      (checkColors seen row).1.errors ++ (checkColors (checkColors seen row).2 row').1.errors := by
  induction row generalizing seen with
  | nil => simp [checkColors]
  | cons e rest ih =>
    obtain ⟨flat, place, value⟩ := e
    rw [List.cons_append, checkColors, checkColors]
    cases Table.lookup flat seen with
    | some first => simp [ih seen]
    | none => simp [ih (seen ++ [(flat, place)])]

/-- What is said about a value that is no color. -/
theorem kind_eq_error {value : String} {e : ThemeError} (h : Color.kind value = .error e) :
    e = .malformedColor value := by
  unfold Color.kind at h
  cases hkind : Color.kind? value with
  | some kind => simp [hkind] at h
  | none =>
    rw [hkind] at h
    exact (Except.error.inj h).symm

/-- The reports of one step: a name that is remembered is taken. -/
theorem errorsLike_checkColors_cons (seen : List (String × FieldPath)) (flat : String)
    (place : FieldPath) (value : String) (rest : List (String × FieldPath × String)) :
    (checkColors seen ((flat, place, value) :: rest)).1.errorsLike "token " =
      match Table.lookup flat seen with
      | some first => taken flat place first :: (checkColors seen rest).1.errorsLike "token "
      | none => (checkColors (seen ++ [(flat, place)]) rest).1.errorsLike "token " := by
  -- A wrong value is reported in other words.
  have hbad : (Diagnostics.error place (ThemeError.malformedColor value).message).errorsLike
      "token " = [] :=
    Diagnostics.errorsLike_of_head rfl rfl (head_append rfl _) (by decide)
  have htaken (first : FieldPath) :
      (Diagnostics.error place ("token " ++ ticked flat ++ " is already defined by " ++
        first.text)).errorsLike "token " = [taken flat place first] := by
    rw [taken, String.append_assoc, String.append_assoc]
    exact Diagnostics.errorsLike_error _ _ _
  rw [checkColors]
  cases hkind : Color.kind value with
  | ok kind =>
    cases Table.lookup flat seen with
    | some first => simp [htaken]
    | none => simp
  | error e =>
    obtain rfl := kind_eq_error hkind
    cases Table.lookup flat seen with
    | some first => simp [hbad, htaken]
    | none => simp [hbad]

/-- A row that is checked behind others has a report for each color whose name stands earlier
among all of them. -/
theorem errorsLike_checkColors {seen : List (String × FieldPath)}
    {done : List (String × FieldPath × String)} (h : Records seen done)
    (row : List (String × FieldPath × String)) :
    (checkColors seen row).1.errorsLike "token " =
      (row.zipIdx done.length).filterMap (takenReport? (done ++ row)) := by
  induction row generalizing seen done with
  | nil => rfl
  | cons e rest ih =>
    obtain ⟨flat, place, value⟩ := e
    have hhere : takenReport? (done ++ (flat, place, value) :: rest)
        ((flat, place, value), done.length) = (Table.lookup flat seen).map (taken flat place) := by
      rw [takenReport?, List.take_left, h flat]
    have hrest : done ++ (flat, place, value) :: rest = done ++ [(flat, place, value)] ++ rest := by
      rw [List.append_assoc]
      rfl
    have hlength : done.length + 1 = (done ++ [(flat, place, value)]).length := by
      rw [List.length_append]
      rfl
    rw [errorsLike_checkColors_cons, List.zipIdx_cons]
    -- What is remembered tells whether an earlier color has the name.
    cases hfirst : Table.lookup flat seen with
    | some first =>
      rw [hfirst, Option.map_some] at hhere
      rw [List.filterMap_cons_some hhere, hrest, hlength]
      exact congrArg _ (ih (h.known hfirst place value))
    | none =>
      rw [hfirst, Option.map_none] at hhere
      rw [List.filterMap_cons_none hhere, hrest, hlength]
      exact ih (h.new flat place value)

/-! ## All tokens -/

/-- What is said about the name and the keys of a token is never that a name is taken. -/
theorem errorsLike_checkToken (field : FieldPath) (name : String) (token : ColorToken) :
    (checkToken field name token).errorsLike "token " = [] := by
  have hneeded (field : FieldPath) (key : String) (value : Option String) :
      (checkNeeded field key value).errorsLike "token " = [] := by
    cases value with
    | none => exact Diagnostics.errorsLike_of_head rfl rfl (head_append rfl _) (by decide)
    | some v =>
      apply Diagnostics.errorsLike_when
      exact Diagnostics.errorsLike_of_head rfl rfl
        (head_append (head_append (head_append rfl _) _) _) (by decide)
  unfold checkToken
  rw [Diagnostics.errorsLike_append]
  apply List.append_eq_nil_iff.2
  constructor
  · apply Diagnostics.errorsLike_when
    exact Diagnostics.errorsLike_of_head rfl rfl
      (head_append (head_append (head_append rfl _) _) _) (by decide)
  · cases token with
    | single value => rfl
    | group g =>
      show (checkGroup (field.key name) g).errorsLike _ = _
      rw [checkGroup, Diagnostics.errorsLike_append, Diagnostics.errorsLike_append, hneeded,
        hneeded, Diagnostics.errorsLike_concat, List.nil_append, List.nil_append,
        List.flatMap_eq_nil_iff, List.forall_mem_map]
      intro key _
      apply Diagnostics.errorsLike_when
      exact Diagnostics.errorsLike_of_head rfl rfl
        (head_append (head_append (head_append rfl _) _) _) (by decide)

/-- The tokens are reported as taken as if all their colors stood in one row. -/
theorem errorsLike_checkTokens (field : FieldPath) (seen : List (String × FieldPath))
    (entries : List (String × ColorToken)) :
    (checkTokens field seen entries).errorsLike "token " =
      (checkColors seen (entries.flatMap fun e => placed field e.1 e.2)).1.errorsLike "token " := by
  induction entries generalizing seen with
  | nil => rfl
  | cons e rest ih =>
    obtain ⟨name, token⟩ := e
    have herrors := errors_checkColors_append seen (placed field name token)
      (rest.flatMap fun e => placed field e.1 e.2)
    simp only [checkTokens, Diagnostics.errorsLike_append, errorsLike_checkToken, ih,
      List.nil_append, List.flatMap_cons]
    rw [Diagnostics.errorsLike, Diagnostics.errorsLike, ← List.filter_append, ← herrors]
    rfl

/-- The check of a color table reports an error exactly where a rule is broken: names and shades
have their grammars, groups have the variants they need, values are colors, and flat names are
distinct. The flat names that it reports as taken are those that stand earlier in the list of
flat names, each with the first place of the name. -/
theorem color_table_checked (colors : ColorTokens) (field : FieldPath) :
    ((colors.diagnostics field).errors = [] ↔
      (∀ name token, (name, token) ∈ colors.tokens.entries → TokenGrammar name) ∧
      (∀ name g, (name, ColorToken.group g) ∈ colors.tokens.entries →
        g.default.isSome = true ∧ g.foreground.isSome = true) ∧
      (∀ name g, (name, ColorToken.group g) ∈ colors.tokens.entries →
        ∀ shade ∈ g.shades.keys, ShadeGrammar shade) ∧
      (∀ name value, (name, value) ∈ colors.flatten → ∃ kind, Color.kind value = .ok kind) ∧
      (colors.flatten.map Prod.fst).Nodup) ∧
    (colors.placements field).map (fun e => (e.1, e.2.2)) = colors.flatten ∧
    (colors.diagnostics field).errorsLike "token " = takenReports (colors.placements field) := by
  refine ⟨?_, map_placements colors field, ?_⟩
  · rw [errors_eq_nil_iff]
    constructor
    · intro h
      refine ⟨?_, ?_, ?_, ?_, h.nodup⟩
      · -- The rules are those of a valid table, with the grammars in place of the checks.
        intro name token hmem
        have hfits := h.fits _ hmem
        cases token with
        | single value => exact isTokenName_iff.1 hfits
        | group g => exact isTokenName_iff.1 hfits.1
      · intro name g hmem
        have hfits := h.fits _ hmem
        exact ⟨hfits.2.1, hfits.2.2.1⟩
      · intro name g hmem shade hshade
        have hfits := h.fits _ hmem
        exact isShadeName_iff.1 (hfits.2.2.2 shade hshade)
      · intro name value hmem
        exact kind_eq_ok_iff.2 (h.isColor (name, value) hmem)
    · intro h
      obtain ⟨hnames, hneeded, hshades, hcolors, hnodup⟩ := h
      refine ⟨?_, ?_, hnodup⟩
      · intro e hmem
        obtain ⟨name, token⟩ := e
        have hname : isTokenName name = true := isTokenName_iff.2 (hnames name token hmem)
        cases token with
        | single value => exact hname
        | group g =>
          obtain ⟨hdefault, hforeground⟩ := hneeded name g hmem
          refine ⟨hname, hdefault, hforeground, ?_⟩
          intro shade hshade
          exact isShadeName_iff.2 (hshades name g hmem shade hshade)
      · intro e hmem
        exact kind_eq_ok_iff.1 (hcolors e.1 e.2 hmem)
  · have hempty : Records [] [] := fun name => rfl
    rw [diagnostics, errorsLike_checkTokens, errorsLike_checkColors hempty]
    rfl

end ColorTokens

end DocSite
