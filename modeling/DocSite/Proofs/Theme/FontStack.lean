import DocSite.Proofs.Diagnostics
import DocSite.Proofs.Table
import DocSite.Theme.Font

/-!
# Font stacks are read back

  A stylesheet reads a list of font names: strings and identifiers with commas
  between them, where a backslash in a string stands for the character behind it
  and no string runs past the end of a line. A stack is such a list, and reading it
  gives the names of its fonts back, unless a name has a backslash or a line break
  in it: such a name is put between quotes as it is.
-/

namespace DocSite

open DocSite.Text

/-! ## Lists of font names in a stylesheet -/

namespace FontList

/-- The characters that end a line of a stylesheet. -/
def isLineBreak (c : Char) : Bool := c == '\n' || c == '\r' || c == '\u000c'

/-- The characters between the items of a list. -/
def isSpace (c : Char) : Bool := c == ' ' || c == '\t' || isLineBreak c

/-- A string behind its opening quote, with what follows the closing one. A backslash stands for
the character behind it, and a line break is a fault. -/
def stringBody? (quote : Char) : List Char → Option (List Char × List Char)
  | [] => none
  | '\\' :: c :: cs => (stringBody? quote cs).map fun (body, rest) => (c :: body, rest)
  | c :: cs =>
    if c == quote then some ([], cs)
    else if isLineBreak c then none
    else (stringBody? quote cs).map fun (body, rest) => (c :: body, rest)

/-- The characters that an identifier can begin with. -/
def isIdentStart (c : Char) : Bool := c.isAlpha || c == '_' || 0x80 ≤ c.toNat

/-- The characters of an identifier. -/
def isIdentChar (c : Char) : Bool := isIdentStart c || c.isDigit || c == '-'

/-- Whether the characters of an identifier make one: a hyphen may stand in front. -/
def isIdent : List Char → Bool
  | '-' :: c :: _ => c == '-' || isIdentStart c
  | c :: _ => isIdentStart c
  | [] => false

/-- An item of a list, a string in either quotes or an identifier, with what follows it. -/
def item? : List Char → Option (List Char × List Char)
  | '"' :: cs => stringBody? '"' cs
  | '\'' :: cs => stringBody? '\'' cs
  | cs =>
    let (word, rest) := cs.span isIdentChar
    if isIdent word then some (word, rest) else none

theorem length_stringBody? {quote : Char} {cs body rest : List Char}
    (h : stringBody? quote cs = some (body, rest)) : rest.length < cs.length := by
  fun_induction stringBody? quote cs generalizing body with
  | case1 => simp at h
  | case2 c cs ih =>
    obtain ⟨⟨body', rest'⟩, hread, he⟩ := Option.map_eq_some_iff.1 h
    obtain ⟨-, rfl⟩ := Prod.mk.inj he
    have := ih hread
    simp only [List.length_cons]
    omega
  | case3 c cs hc hquote =>
    obtain ⟨-, rfl⟩ := Prod.mk.inj (Option.some.inj h)
    simp
  | case4 c cs hc hquote hbreak => simp at h
  | case5 c cs hc hquote hbreak ih =>
    obtain ⟨⟨body', rest'⟩, hread, he⟩ := Option.map_eq_some_iff.1 h
    obtain ⟨-, rfl⟩ := Prod.mk.inj he
    have := ih hread
    simp only [List.length_cons]
    omega

theorem length_item? {cs name rest : List Char} (h : item? cs = some (name, rest)) :
    rest.length < cs.length := by
  unfold item? at h
  split at h
  · exact Nat.lt_succ_of_lt (length_stringBody? h)
  · exact Nat.lt_succ_of_lt (length_stringBody? h)
  · cases hspan : cs.span isIdentChar with
    | mk word after =>
      simp only [hspan] at h
      split at h
      · rename_i hident
        obtain ⟨rfl, rfl⟩ := Prod.mk.inj (Option.some.inj h)
        -- A word that begins an identifier has a first character, so something was used up.
        have hne : word ≠ [] := by
          rintro rfl
          simp [isIdent] at hident
        obtain ⟨heq, -⟩ := span_eq_iff.1 hspan
        have := List.length_pos_iff.2 hne
        rw [heq, List.length_append]
        omega
      · simp at h

/-- The characters of a list without the spaces in front. -/
def skipSpaces (cs : List Char) : List Char := cs.dropWhile isSpace

theorem length_skipSpaces (cs : List Char) : (skipSpaces cs).length ≤ cs.length :=
  (List.dropWhile_suffix isSpace).length_le

/-- The items of a list: there is one at least, and a comma stands between two of them. -/
def items? (cs : List Char) : Option (List String) :=
  match _h : item? (skipSpaces cs) with
  | none => none
  | some (name, after) =>
    match _hafter : skipSpaces after with
    | [] => some [String.ofList name]
    | c :: rest => if c == ',' then (items? rest).map (String.ofList name :: ·) else none
termination_by cs.length
decreasing_by
  have hitem := length_item? _h
  have hskip := length_skipSpaces cs
  have hrest := length_skipSpaces after
  rw [_hafter, List.length_cons] at hrest
  omega

/-- The names that a stylesheet reads in a list of fonts. -/
def read? (s : String) : Option (List String) := items? s.toList

/-! ## Reading strings -/

/-- A text that a string can hold as it is. -/
def IsLiteral (cs : List Char) : Prop := ∀ c ∈ cs, c ≠ '\\' ∧ isLineBreak c = false

-- Left to itself, Lean would go through all characters there are.
instance (cs : List Char) : Decidable (IsLiteral cs) := List.decidableBAll _ cs

theorem stringBody?_cons {quote c : Char} (hc : c ≠ '\\') (cs : List Char) :
    stringBody? quote (c :: cs) =
      if c == quote then some ([], cs)
      else if isLineBreak c then none
      else (stringBody? quote cs).map fun (body, rest) => (c :: body, rest) := by
  rw [stringBody?]
  intro d rest he
  exact absurd he hc

/-- A text that needs no escapes is read up to the closing quote. -/
theorem stringBody?_append {quote : Char} (hne : quote ≠ '\\') {cs : List Char} (h : IsLiteral cs)
    (hquote : quote ∉ cs) (rest : List Char) :
    stringBody? quote (cs ++ quote :: rest) = some (cs, rest) := by
  induction cs with
  | nil => rw [List.nil_append, stringBody?_cons hne, if_pos (by simp)]
  | cons c cs ih =>
    obtain ⟨hback, hbreak⟩ := h c List.mem_cons_self
    have hc : (c == quote) = false := by
      rw [beq_eq_false_iff_ne]
      rintro rfl
      exact hquote List.mem_cons_self
    have hread := ih (fun x hx => h x (List.mem_cons_of_mem _ hx))
      fun hmem => hquote (List.mem_cons_of_mem _ hmem)
    rw [List.cons_append, stringBody?_cons hback, hc, hbreak, hread]
    rfl

/-- A string that is read is the text between the quotes, unless an escape made it shorter or took
the closing quote for a part of it. -/
theorem stringBody?_cases {quote : Char} (hne : quote ≠ '\\') {cs rest body after : List Char}
    (hquote : quote ∉ cs) (h : stringBody? quote (cs ++ quote :: rest) = some (body, after)) :
    (body = cs ∧ IsLiteral cs) ∨ body.length < cs.length ∨ quote ∈ body := by
  generalize htext : cs ++ quote :: rest = text at h
  fun_induction stringBody? quote text generalizing cs body with
  | case1 => simp at h
  | case2 c text ih =>
    obtain ⟨⟨body', after'⟩, hread, he⟩ := Option.map_eq_some_iff.1 h
    obtain ⟨rfl, rfl⟩ := Prod.mk.inj he
    match cs with
    | [] =>
      obtain ⟨rfl, -⟩ := List.cons.inj htext
      exact absurd rfl hne
    | [d] =>
      -- The closing quote is escaped.
      obtain ⟨rfl, htail⟩ := List.cons.inj htext
      obtain ⟨rfl, -⟩ := List.cons.inj htail
      exact .inr (.inr List.mem_cons_self)
    | d :: e :: cs =>
      obtain ⟨rfl, hbehind⟩ := List.cons.inj htext
      obtain ⟨rfl, htail⟩ := List.cons.inj hbehind
      have hcs : quote ∉ cs := fun hmem => hquote (by simp [hmem])
      rcases ih hcs htail hread with ⟨rfl, -⟩ | hshort | hmem
      · exact .inr (.inl (by simp))
      · refine .inr (.inl ?_)
        simp only [List.length_cons]
        omega
      · exact .inr (.inr (List.mem_cons_of_mem _ hmem))
  | case3 c text hc hend =>
    obtain ⟨rfl, -⟩ := Prod.mk.inj (Option.some.inj h)
    cases cs with
    | nil => exact .inl ⟨rfl, by simp [IsLiteral]⟩
    | cons d cs => exact .inr (.inl (by simp))
  | case4 c text hc hend hbreak => simp at h
  | case5 c text hc hend hbreak ih =>
    obtain ⟨⟨body', after'⟩, hread, he⟩ := Option.map_eq_some_iff.1 h
    obtain ⟨rfl, rfl⟩ := Prod.mk.inj he
    match cs with
    | [] =>
      obtain ⟨rfl, -⟩ := List.cons.inj htext
      simp at hend
    | d :: cs =>
      obtain ⟨rfl, htail⟩ := List.cons.inj htext
      have hcs : quote ∉ cs := fun hmem => hquote (List.mem_cons_of_mem _ hmem)
      -- Only a body that was read as it is can still be the whole text.
      rcases ih hcs htail hread with ⟨rfl, hliteral⟩ | hshort | hmem
      · refine .inl ⟨rfl, fun x hx => ?_⟩
        rcases List.mem_cons.1 hx with rfl | hx
        · refine ⟨?_, by simpa using hbreak⟩
          rintro rfl
          have hfilled : text ≠ [] := by simp [← htail]
          obtain ⟨next, others, hnext⟩ := List.exists_cons_of_ne_nil hfilled
          exact hc next others rfl hnext
        · exact hliteral x hx
      · exact .inr (.inl (by simpa using hshort))
      · exact .inr (.inr (List.mem_cons_of_mem _ hmem))

/-! ## Reading lists -/

/-- What may stand behind an item: nothing, or a comma. -/
def EndsItem (rest : List Char) : Prop := ∀ c ∈ rest.head?, c = ','

theorem items?_eq (cs : List Char) :
    items? cs =
      match item? (skipSpaces cs) with
      | none => none
      | some (name, after) =>
        match skipSpaces after with
        | [] => some [String.ofList name]
        | c :: rest => if c == ',' then (items? rest).map (String.ofList name :: ·) else none := by
  rw [items?]
  split
  · rename_i hnone
    rw [hnone]
  · rename_i name after hitem
    rw [hitem]
    simp only
    split
    · rename_i hend
      rw [hend]
    · rename_i c rest hnext
      rw [hnext]

theorem items?_single {cs name : List Char} (h : item? (skipSpaces cs) = some (name, [])) :
    items? cs = some [String.ofList name] := by
  rw [items?_eq, h]
  rfl

theorem items?_cons {cs name rest : List Char}
    (h : item? (skipSpaces cs) = some (name, ',' :: rest)) :
    items? cs = (items? rest).map (String.ofList name :: ·) := by
  rw [items?_eq, h]
  rfl

theorem items?_space (cs : List Char) : items? (' ' :: cs) = items? cs := by
  rw [items?_eq, items?_eq cs]
  rfl

theorem item?_quote (cs : List Char) : item? ('"' :: cs) = stringBody? '"' cs := rfl

/-- The first name of a list is its first item. -/
theorem head_items? {cs : List Char} {name : String} {names : List String}
    (h : items? cs = some (name :: names)) :
    ∃ rest, item? (skipSpaces cs) = some (name.toList, rest) := by
  rw [items?_eq] at h
  split at h
  · simp at h
  · rename_i found after hfound
    refine ⟨after, ?_⟩
    split at h
    · obtain ⟨rfl, -⟩ := List.cons.inj (Option.some.inj h)
      simpa using hfound
    · split at h
      · obtain ⟨others, -, he⟩ := Option.map_eq_some_iff.1 h
        obtain ⟨rfl, -⟩ := List.cons.inj he
        simpa using hfound
      · simp at h

end FontList

namespace FontFamilies

open FontList

/-! ## Reading stacks -/

theorem isIdent_of_generic : ∀ name ∈ genericFamilies, isIdent name.toList = true := by decide

/-- A family is written as the identifier that it is, or between quotes. -/
theorem toList_quoteFamily (name : String) :
    (isIdent (trim name).toList = true ∧ (quoteFamily name).toList = (trim name).toList) ∨
      (quoteFamily name).toList = '"' :: ((trim name).toList ++ ['"']) := by
  unfold quoteFamily
  simp only
  split
  · rename_i h
    refine .inl ⟨?_, rfl⟩
    rcases Bool.or_eq_true_iff.1 h with h | h
    · exact isIdent_of_generic _ (List.contains_iff_mem.1 h)
    · exact h
  · exact .inr (by simp)

theorem not_isLineBreak_of_isNameChar {c : Char} (h : isNameChar c = true) :
    c ≠ '\\' ∧ isLineBreak c = false := by
  refine ⟨?_, ?_⟩
  · rintro rfl
    exact absurd h (by decide)
  · rw [Bool.eq_false_iff]
    intro hbreak
    simp only [isLineBreak, Bool.or_eq_true, beq_iff_eq] at hbreak
    rcases hbreak with (rfl | rfl) | rfl
    · exact absurd h (by decide)
    · exact absurd h (by decide)
    · exact absurd h (by decide)

theorem isIdentChar_of_isNameChar {c : Char} (h : isNameChar c = true) : isIdentChar c = true := by
  simp only [isNameChar, Char.isAlphanum, Bool.or_eq_true] at h
  simp only [isIdentChar, isIdentStart, Bool.or_eq_true]
  tauto

theorem isLiteral_of_isIdent {cs : List Char} (h : isIdent cs = true) : IsLiteral cs := by
  cases cs with
  | nil => simp [isIdent] at h
  | cons first cs =>
    simp only [isIdent, Bool.and_eq_true, List.all_eq_true] at h
    exact fun c hc => not_isLineBreak_of_isNameChar (h.2 c hc)

/-- An identifier is read up to its end. -/
theorem item?_of_isIdent {cs rest : List Char} (h : isIdent cs = true) (hrest : EndsItem rest) :
    item? (skipSpaces (cs ++ rest)) = some (cs, rest) := by
  cases cs with
  | nil => simp [isIdent] at h
  | cons first cs =>
    simp only [isIdent, Bool.and_eq_true, List.all_eq_true] at h
    obtain ⟨hfirst, hchars⟩ := h
    -- An identifier begins with none of the characters that begin something else.
    have hne : ∀ c, (c.isAlpha || c == '_') = false → first ≠ c := by
      rintro c hc rfl
      simp [hfirst] at hc
    have hspace : isSpace first = false := by
      simp [isSpace, isLineBreak, hne]
    have hskip : skipSpaces (first :: cs ++ rest) = first :: cs ++ rest :=
      dropWhile_of_head (by simpa using hspace)
    have hstart : FontList.isIdent (first :: cs) = true := by
      unfold FontList.isIdent
      -- The three ways in which an identifier can begin.
      split
      · rename_i heq
        exact absurd (List.cons.inj heq).1 (hne '-' (by decide))
      · rename_i heq
        rw [← (List.cons.inj heq).1, isIdentStart, hfirst, Bool.true_or]
      · rename_i heq
        cases heq
    have hspan : (first :: cs ++ rest).span isIdentChar = (first :: cs, rest) := by
      refine span_eq_iff.2 ⟨rfl, fun c hc => isIdentChar_of_isNameChar (hchars c hc), ?_⟩
      intro c hc
      rw [hrest c hc]
      rfl
    rw [hskip, item?]
    · simp only [hspan, hstart, if_true]
    · intro tail heq
      exact hne '"' (by decide) (List.cons.inj heq).1
    · intro tail heq
      exact hne '\'' (by decide) (List.cons.inj heq).1

/-- A family between quotes is read as a string. -/
theorem item?_of_quoted {name : String}
    (h : (quoteFamily name).toList = '"' :: ((trim name).toList ++ ['"'])) (rest : List Char) :
    item? (skipSpaces ((quoteFamily name).toList ++ rest)) =
      stringBody? '"' ((trim name).toList ++ '"' :: rest) := by
  have hskip : skipSpaces ((quoteFamily name).toList ++ rest) =
      '"' :: ((trim name).toList ++ '"' :: rest) := by
    rw [h, List.cons_append, List.append_assoc]
    rfl
  rw [hskip, item?_quote]

/-- A family that a string can hold as it is, is read back. -/
theorem item?_quoteFamily {name : String} (hquote : '"' ∉ (trim name).toList)
    (hliteral : IsLiteral (trim name).toList) {rest : List Char} (hrest : EndsItem rest) :
    item? (skipSpaces ((quoteFamily name).toList ++ rest)) = some ((trim name).toList, rest) := by
  rcases toList_quoteFamily name with ⟨hident, htext⟩ | htext
  · rw [htext]
    exact item?_of_isIdent hident hrest
  · rw [item?_of_quoted htext]
    exact stringBody?_append (by decide) hliteral hquote rest

/-- No other family is. -/
theorem isLiteral_of_item? {name : String} (hquote : '"' ∉ (trim name).toList)
    {rest after : List Char}
    (h : item? (skipSpaces ((quoteFamily name).toList ++ rest)) = some ((trim name).toList, after)) :
    IsLiteral (trim name).toList := by
  rcases toList_quoteFamily name with ⟨hident, -⟩ | htext
  · exact isLiteral_of_isIdent hident
  · rw [item?_of_quoted htext] at h
    rcases stringBody?_cases (by decide) hquote h with ⟨-, hliteral⟩ | hshort | hmem
    · exact hliteral
    · exact absurd hshort (Nat.lt_irrefl _)
    · exact absurd hmem hquote

theorem stackOf_cons (name next : String) (fonts : List String) :
    (stackOf (name :: next :: fonts)).toList =
      (quoteFamily name).toList ++ ',' :: ' ' :: (stackOf (next :: fonts)).toList := by
  rw [stackOf, List.map_cons, List.map_cons, joinText_cons_cons, String.toList_append,
    String.toList_append, List.append_assoc]
  rfl

/-- A stack is read back as its fonts exactly if a string can hold the name of each as it is. -/
theorem items?_stackOf_iff {fonts : List String} (hne : fonts ≠ [])
    (hquote : ∀ name ∈ fonts, '"' ∉ (trim name).toList) :
    items? (stackOf fonts).toList = some (fonts.map trim) ↔
      ∀ name ∈ fonts, IsLiteral (trim name).toList := by
  -- By induction on the fonts: the first item decides about the first name, and only a name that
  -- is read as it is leaves the list of the other fonts over.
  induction fonts with
  | nil => exact absurd rfl hne
  | cons name fonts ih =>
    have hname : '"' ∉ (trim name).toList := hquote name List.mem_cons_self
    have hfonts : ∀ other ∈ fonts, '"' ∉ (trim other).toList :=
      fun other hmem => hquote other (List.mem_cons_of_mem _ hmem)
    rw [List.forall_mem_cons]
    -- A single font has no comma behind it.
    cases fonts with
    | nil =>
      have htext : (stackOf [name]).toList = (quoteFamily name).toList ++ [] := by
        simp [stackOf, joinText]
      rw [htext]
      constructor
      · intro h
        obtain ⟨after, hitem⟩ := head_items? h
        exact ⟨isLiteral_of_item? hname hitem, by simp⟩
      · rintro ⟨hliteral, -⟩
        rw [items?_single (item?_quoteFamily hname hliteral (by simp [EndsItem])),
          String.ofList_toList]
        rfl
    | cons next fonts =>
      have hrest : items? (' ' :: (stackOf (next :: fonts)).toList) =
          some ((next :: fonts).map trim) ↔
            ∀ other ∈ next :: fonts, IsLiteral (trim other).toList := by
        rw [items?_space]
        exact ih (by simp) hfonts
      rw [stackOf_cons, ← hrest]
      constructor
      · intro h
        obtain ⟨after, hitem⟩ := head_items? h
        have hliteral := isLiteral_of_item? hname hitem
        rw [items?_cons (item?_quoteFamily hname hliteral (by simp [EndsItem]))] at h
        obtain ⟨others, hothers, he⟩ := Option.map_eq_some_iff.1 h
        obtain ⟨-, rfl⟩ := List.cons.inj he
        exact ⟨hliteral, hothers⟩
      · rintro ⟨hliteral, hothers⟩
        rw [items?_cons (item?_quoteFamily hname hliteral (by simp [EndsItem])), hothers,
          String.ofList_toList]
        rfl

/-! ## Checked stacks -/

/-- A name without errors has no quote in it. -/
theorem no_quote_of_checkFont {field : FieldPath} {name : String}
    (h : (checkFont field name).errors = []) : '"' ∉ (trim name).toList := by
  intro hmem
  have hname : '"' ∈ name.toList := by
    obtain ⟨front, back, -, -, heq⟩ := exists_trimBoth name.toList
    rw [toList_trim] at hmem
    rw [heq, List.mem_append, List.mem_append]
    exact .inl (.inr hmem)
  unfold checkFont at h
  split at h
  · simp at h
  · simp only [Diagnostics.errors_when_eq_nil_iff, Diagnostics.errors_error] at h
    have hsyntax : (name.toList.any fun c => ['"', ';', '\x7b', '\x7d'].contains c) = true :=
      List.any_eq_true.2 ⟨'"', hname, by decide⟩
    exact absurd (h hsyntax) (by simp)

/-- In a table without errors, a role has fonts, and none of their names has a quote. -/
theorem of_no_errors {families : FontFamilies} {field : FieldPath}
    (h : (families.diagnostics field).errors = []) {role : String} {fonts : List String}
    (hrole : families.roles.get? role = some fonts) :
    fonts ≠ [] ∧ ∀ name ∈ fonts, '"' ∉ (trim name).toList := by
  have hentry : (role, fonts) ∈ families.roles.entries := (Table.get?_eq_some_iff _).1 hrole
  rw [diagnostics, Diagnostics.errors_concat, List.flatMap_eq_nil_iff, List.forall_mem_map] at h
  have hcheck := h (role, fonts) hentry
  simp only [checkRole] at hcheck
  split at hcheck
  · simp at hcheck
  · rename_i last hlast
    obtain ⟨hitems, -⟩ := Diagnostics.errors_append_eq_nil_iff.1 hcheck
    refine ⟨?_, ?_⟩
    · rintro rfl
      simp at hlast
    · intro name hname
      obtain ⟨i, hi⟩ := List.mem_iff_getElem?.1 hname
      exact no_quote_of_checkFont (Diagnostics.errors_forItems_eq_nil_iff.1 hitems i name hi)

/-- The stack of a role in a table without errors is a list of font names, and reading it gives the
fonts of the role back, in order and trimmed, exactly if no name has a backslash or a line break in
it. -/
theorem stack_reads_back_iff {families : FontFamilies} {field : FieldPath}
    (h : (families.diagnostics field).errors = []) {role : String} {fonts : List String}
    (hrole : families.roles.get? role = some fonts) :
    ∃ stack, families.stack? role = some stack ∧
      (FontList.read? stack = some (fonts.map trim) ↔
        ∀ name ∈ fonts, ∀ c ∈ (trim name).toList, c ≠ '\\' ∧ isLineBreak c = false) := by
  obtain ⟨hne, hquote⟩ := of_no_errors h hrole
  refine ⟨stackOf fonts, ?_, items?_stackOf_iff hne hquote⟩
  rw [stack?, hrole, Option.map_some]

/-- A stack of a word, a name with spaces around it and one with a comma in it. -/
def mixedStack : FontFamilies where
  roles.entries := [("mono", ["Consolas", " JetBrains Mono ", "Courier, New", "monospace"])]

theorem stack_reads_back_iff_mixed :
    (mixedStack.diagnostics ⟨"fonts"⟩).errors = [] ∧
      ∃ stack, mixedStack.stack? "mono" = some stack ∧
        FontList.read? stack =
          some ["Consolas", "JetBrains Mono", "Courier, New", "monospace"] := by
  have herrors : (mixedStack.diagnostics ⟨"fonts"⟩).errors = [] := by decide +kernel
  have hrole : mixedStack.roles.get? "mono" =
      some ["Consolas", " JetBrains Mono ", "Courier, New", "monospace"] := rfl
  have hliteral : ∀ name ∈ ["Consolas", " JetBrains Mono ", "Courier, New", "monospace"],
      IsLiteral (trim name).toList := by
    decide +kernel
  obtain ⟨stack, hstack, hread⟩ := stack_reads_back_iff herrors hrole
  exact ⟨herrors, stack, hstack, hread.2 hliteral⟩

/-- A font whose name has a backslash in it. -/
def escapingStack : FontFamilies where
  roles.entries := [("mono", ["A\\c", "serif"])]

/-- A backslash is written between the quotes as it is, and takes itself away when it is read. -/
theorem stack_loses_backslash :
    (escapingStack.diagnostics ⟨"fonts"⟩).errors = [] ∧
      escapingStack.stack? "mono" = some "\"A\\c\", serif" ∧
      FontList.read? "\"A\\c\", serif" ≠ some (["A\\c", "serif"].map trim) := by
  refine ⟨by decide +kernel, by decide +kernel, fun hread => ?_⟩
  have hquote : ∀ name ∈ ["A\\c", "serif"], '"' ∉ (trim name).toList := by decide +kernel
  have hliteral := (items?_stackOf_iff (List.cons_ne_nil _ _) hquote).1 hread
  exact absurd (hliteral "A\\c" List.mem_cons_self '\\' (by decide +kernel)).1 (by decide)

end FontFamilies

end DocSite
