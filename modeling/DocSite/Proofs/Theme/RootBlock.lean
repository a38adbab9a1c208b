import DocSite.Proofs.Table
import DocSite.Proofs.Theme.References

/-!
# Root variables are read back from a stylesheet

  A root block declares variables one after the other, with blanks and comments
  between the declarations. Reading it gives each declared name its first value,
  in the order of the declarations, and nothing else: what stands in a comment is
  taken out before, and a value is skipped as a whole, whatever looks like a
  declaration in it.
-/

namespace DocSite

open DocSite.Text

namespace Variables

/-! ## Root blocks -/

/-- A value that a declaration can hold: it has no end of a declaration or block, and opens no
comment. -/
structure IsValueText (value : List Char) : Prop where
  no_semicolon : ';' ∉ value
  no_brace : '\x7d' ∉ value
  no_comment : ¬['/', '*'] <:+: value

/-- What may stand in a root block. -/
inductive BlockItem where
  | declaration (name value : String) (hname : IsVarName name.toList)
      (hvalue : IsValueText value.toList)
  | comment (text : String) (h : ¬['*', '/'] <:+: text.toList)
  | blanks (text : String) (h : ∀ c ∈ text.toList, isBlank c = true)

namespace BlockItem

/-- An item as it is written. -/
def text : BlockItem → String
  | declaration name value _ _ => "--" ++ name ++ ": " ++ value ++ ";"
  | comment text _ => "/*" ++ text ++ "*/"
  | blanks text _ => text

/-- What an item declares. -/
def declared? : BlockItem → Option (String × String)
  | declaration name value _ _ => some (name, value)
  | comment _ _ => none
  | blanks _ _ => none

/-- An item without its comments. -/
def bare : BlockItem → List Char
  | comment _ _ => []
  | item => item.text.toList

end BlockItem

/-- A stylesheet that is one root block. -/
def rootBlock (items : List BlockItem) : String :=
  ":root \x7b" ++ String.join (items.map BlockItem.text) ++ "\x7d"

/-- The names that a root block declares with their values, in order. -/
def declaredIn (items : List BlockItem) : List (String × String) :=
  items.filterMap BlockItem.declared?

/-! ## Taking comments out -/

/-- A comment ends at the first mark that closes it. -/
theorem afterComment?_append {text : List Char} (h : ¬['*', '/'] <:+: text) (rest : List Char) :
    afterComment? (text ++ '*' :: '/' :: rest) = some rest := by
  induction text with
  | nil => rfl
  | cons c text ih =>
    have htext : ¬['*', '/'] <:+: text := fun hin => h (hin.trans (List.suffix_cons c text).isInfix)
    rw [List.cons_append, afterComment?, ih htext]
    intro tail hc htail
    apply h
    cases text with
    | nil => simp at htail
    | cons d text =>
      obtain ⟨rfl, -⟩ := List.cons.inj htail
      exact ⟨[], text, by simp [hc]⟩

theorem stripComments_comment {text : List Char} (h : ¬['*', '/'] <:+: text) (rest : List Char) :
    stripComments ('/' :: '*' :: (text ++ '*' :: '/' :: rest)) = stripComments rest := by
  rw [stripComments]
  split
  · rename_i after hafter
    rw [afterComment?_append h] at hafter
    rw [Option.some.inj hafter]
  · rename_i hafter
    rw [afterComment?_append h] at hafter
    cases hafter

/-- A character that opens no comment stays. -/
theorem stripComments_cons {c : Char} {rest : List Char} (h : c = '/' → rest.head? ≠ some '*') :
    stripComments (c :: rest) = c :: stripComments rest := by
  rw [stripComments]
  rintro tail hc rfl
  exact h hc rfl

/-- A text that opens no comment stays, unless it joins what follows. -/
theorem stripComments_append {cs rest : List Char} (h : ¬['/', '*'] <:+: cs)
    (hrest : cs.getLast? = some '/' → rest.head? ≠ some '*') :
    stripComments (cs ++ rest) = cs ++ stripComments rest := by
  induction cs with
  | nil => rfl
  | cons c cs ih =>
    have hcs : ¬['/', '*'] <:+: cs := fun hin => h (hin.trans (List.suffix_cons c cs).isInfix)
    -- A slash at the end is the one place where what follows could open a comment with it.
    have hstay : c = '/' → (cs ++ rest).head? ≠ some '*' := by
      rintro rfl hhead
      cases cs with
      | nil => exact hrest rfl hhead
      | cons d cs =>
        obtain rfl : d = '*' := by simpa using hhead
        exact h ⟨[], cs, rfl⟩
    rw [List.cons_append, stripComments_cons hstay, ih hcs, List.cons_append]
    intro hlast
    apply hrest
    rw [List.getLast?_cons, hlast]
    rfl

theorem not_infix_of_not_mem {a b : Char} {cs : List Char} (h : a ∉ cs) : ¬[a, b] <:+: cs :=
  fun hin => h (hin.subset (by simp))

/-- Taking the comments out of a block leaves its declarations and blanks. -/
theorem stripComments_items (items : List BlockItem) :
    stripComments ((String.join (items.map BlockItem.text)).toList ++ ['\x7d']) =
      items.flatMap BlockItem.bare ++ ['\x7d'] := by
  induction items with
  | nil => simp [stripComments]
  | cons item items ih =>
    rw [List.map_cons, String.join_cons, String.toList_append, List.append_assoc,
      List.flatMap_cons, List.append_assoc, ← ih]
    generalize (String.join (items.map BlockItem.text)).toList ++ ['\x7d'] = rest
    cases item with
    | declaration name value hname hvalue =>
      have hslash : '/' ∉ "--".toList ++ name.toList ++ ": ".toList := by
        have hname : '/' ∉ name.toList := fun hmem => absurd (hname.2 _ hmem) (by decide)
        simp [hname]
      have htext : (BlockItem.declaration name value hname hvalue).text.toList ++ rest =
          ("--".toList ++ name.toList ++ ": ".toList) ++ (value.toList ++ ';' :: rest) := by
        simp [BlockItem.text]
      have hbare : (BlockItem.declaration name value hname hvalue).bare =
          ("--".toList ++ name.toList ++ ": ".toList) ++ (value.toList ++ [';']) := by
        simp [BlockItem.bare, BlockItem.text]
      have hlast : ("--".toList ++ name.toList ++ ": ".toList).getLast? = some ' ' := by
        rw [List.getLast?_append]
        rfl
      have hspace : ("--".toList ++ name.toList ++ ": ".toList).getLast? ≠ some '/' := by
        -- In front of the value stands a blank, so the value cannot open a comment with it.
        simp only [hlast]
        decide
      rw [htext, hbare, stripComments_append (not_infix_of_not_mem hslash) fun he => absurd he hspace,
        stripComments_append hvalue.no_comment (by simp), stripComments_cons (by simp)]
      simp
    | comment text h =>
      have htext : (BlockItem.comment text h).text.toList ++ rest =
          '/' :: '*' :: (text.toList ++ '*' :: '/' :: rest) := by
        simp [BlockItem.text]
      rw [htext, stripComments_comment h]
      rfl
    | blanks text h =>
      have hlast : text.toList.getLast? ≠ some '/' := fun hlast =>
        absurd (h _ (List.mem_of_getLast? hlast)) (by decide)
      have hslash : '/' ∉ text.toList := not_mem_of_blank (by decide) h
      exact stripComments_append (not_infix_of_not_mem hslash) fun he => absurd he hlast

/-! ## Reading the declarations -/

theorem declaration?_of_no_hyphen {cs : List Char} (h : '-' ∉ cs) : declaration? cs = none := by
  have hname : name? (trimLeft cs) = none := by
    rw [Option.eq_none_iff_forall_ne_some]
    rintro ⟨name, rest⟩ hname
    obtain ⟨heq, -⟩ := name?_eq_some_iff.1 hname
    have hmem : '-' ∈ trimLeft cs := by simp [heq]
    exact h ((List.dropWhile_suffix isBlank).subset hmem)
  simp [declaration?, hname]

/-- A text without hyphens declares nothing. -/
theorem declarations_of_no_hyphen {cs : List Char} (h : '-' ∉ cs) (room : Nat) (lineStart : Bool) :
    declarations room lineStart cs = [] := by
  induction cs generalizing room lineStart with
  | nil => cases room <;> rfl
  | cons c cs ih =>
    cases room with
    | zero => rfl
    | succ room =>
      have hcs : '-' ∉ cs := fun hmem => h (List.mem_cons_of_mem _ hmem)
      have hnone : declarationHere? lineStart (c :: cs) = none := by
        simp [declarationHere?, declaration?_of_no_hyphen h, declaration?_of_no_hyphen hcs]
      rw [declarations, hnone]
      exact ih hcs room _

/-- A declaration is read with its value, blanks around it aside. -/
theorem declaration?_append {blanks name value : List Char} (hblanks : ∀ c ∈ blanks, isBlank c = true)
    (hname : IsVarName name) (hvalue : IsValueText value) (rest : List Char) :
    declaration? (blanks ++ ("--".toList ++ (name ++ (": ".toList ++ (value ++ ';' :: rest))))) =
      some ((String.ofList name, String.ofList (trimBoth value)), ';' :: rest) := by
  -- The parts of the declaration are read one after the other.
  have htrim : trimLeft (blanks ++ ("--".toList ++ (name ++ (": ".toList ++ (value ++ ';' :: rest))))) =
      "--".toList ++ (name ++ (": ".toList ++ (value ++ ';' :: rest))) := by
    rw [trimLeft, List.dropWhile_append_of_pos hblanks]
    rfl
  have hread : name? ("--".toList ++ (name ++ (": ".toList ++ (value ++ ';' :: rest)))) =
      some (name, ": ".toList ++ (value ++ ';' :: rest)) :=
    name?_eq_some_iff.2 ⟨rfl, hname, by
      intro c hc
      obtain rfl : ':' = c := by simpa using hc
      decide⟩
  have hspan : (' ' :: (value ++ ';' :: rest)).span (fun c => c != ';' && c != '\x7d') =
      (' ' :: value, ';' :: rest) := by
    apply span_eq_iff.2
    refine ⟨rfl, ?_, by simp⟩
    intro c hc
    rcases List.mem_cons.1 hc with rfl | hc
    · rfl
    · have hsemicolon : c ≠ ';' := fun e => hvalue.no_semicolon (e ▸ hc)
      have hbrace : c ≠ '\x7d' := fun e => hvalue.no_brace (e ▸ hc)
      simp [hsemicolon, hbrace]
  have hspace : trimBoth (' ' :: value) = trimBoth value := rfl
  have hcolon : trimLeft (": ".toList ++ (value ++ ';' :: rest)) =
      ':' :: ' ' :: (value ++ ';' :: rest) := rfl
  simp only [declaration?, htrim, hread, hcolon, Option.bind_eq_bind, Option.bind_some, hspan,
    hspace]

/-- A declaration may stand behind a brace or a semicolon. -/
theorem declarationHere?_separator {sep : Char} (hsep : sep = '\x7b' ∨ sep = ';') (lineStart : Bool)
    (cs : List Char) : declarationHere? lineStart (sep :: cs) = declaration? cs := by
  rcases hsep with rfl | rfl
  · cases lineStart <;> rfl
  · cases lineStart <;> rfl

/-- Behind a separator and blanks, the items of a block declare what stands in them. -/
theorem declarations_items (items : List BlockItem) {sep : Char} (hsep : sep = '\x7b' ∨ sep = ';')
    {blanks : List Char} (hblanks : ∀ c ∈ blanks, isBlank c = true) {room : Nat}
    (hroom : (blanks ++ items.flatMap BlockItem.bare).length + 2 ≤ room) (lineStart : Bool) :
    declarations room lineStart (sep :: (blanks ++ (items.flatMap BlockItem.bare ++ ['\x7d']))) =
      (declaredIn items).map fun (name, value) => (name, trim value) := by
  -- By induction on the items. A declaration leaves its semicolon over, which is the separator of
  -- what follows; items without a declaration only add to the blanks behind the separator.
  induction items generalizing sep blanks room lineStart with
  | nil =>
    have hhyphen : '-' ∉ sep :: (blanks ++ ([] ++ ['\x7d'])) := by
      have hb : '-' ∉ blanks := not_mem_of_blank (by decide) hblanks
      rcases hsep with rfl | rfl <;> simp [hb]
    exact declarations_of_no_hyphen hhyphen room lineStart
  | cons item items ih =>
    rw [List.flatMap_cons, List.append_assoc]
    rw [List.flatMap_cons] at hroom
    cases item with
    | declaration name value hname hvalue =>
      obtain ⟨room, rfl⟩ : ∃ n, room = n + 1 := ⟨room - 1, by omega⟩
      have hbare : (BlockItem.declaration name value hname hvalue).bare =
          "--".toList ++ (name.toList ++ (": ".toList ++ (value.toList ++ [';']))) := by
        simp [BlockItem.bare, BlockItem.text]
      have htext : (BlockItem.declaration name value hname hvalue).bare ++
          (items.flatMap BlockItem.bare ++ ['\x7d']) = "--".toList ++ (name.toList ++ (": ".toList ++
            (value.toList ++ ';' :: (items.flatMap BlockItem.bare ++ ['\x7d'])))) := by
        simp [hbare]
      have hfound : declarationHere? lineStart (sep :: (blanks ++
          ((BlockItem.declaration name value hname hvalue).bare ++
            (items.flatMap BlockItem.bare ++ ['\x7d'])))) =
          some ((name, trim value), ';' :: (items.flatMap BlockItem.bare ++ ['\x7d'])) := by
        rw [declarationHere?_separator hsep, htext, declaration?_append hblanks hname hvalue,
          String.ofList_toList]
        rfl
      have hrest : (([] : List Char) ++ items.flatMap BlockItem.bare).length + 2 ≤ room := by
        simp only [hbare, List.length_append, List.length_nil, List.length_cons] at hroom ⊢
        omega
      rw [declarations, hfound]
      -- The semicolon that ends the declaration begins what follows.
      have hnone : ∀ c ∈ ([] : List Char), isBlank c = true := by simp
      have hnext := ih (.inr rfl) hnone hrest false
      rw [List.nil_append] at hnext
      simp only [hnext]
      rfl
    -- A comment leaves no trace in the text.
    | comment text h => exact ih hsep hblanks hroom lineStart
    | blanks text h =>
      -- Blanks join the blanks that are already behind the separator.
      have hboth : ∀ c ∈ blanks ++ text.toList, isBlank c = true := by
        intro c hc
        rcases List.mem_append.1 hc with hc | hc
        · exact hblanks c hc
        · exact h c hc
      rw [← List.append_assoc] at hroom
      have hnext := ih hsep hboth hroom lineStart
      rw [List.append_assoc] at hnext
      exact hnext

/-- A root block declares what its items declare. -/
theorem declarations_rootBlock (items : List BlockItem) :
    declarations ((stripComments (rootBlock items).toList).length + 1) true
      (stripComments (rootBlock items).toList) =
        (declaredIn items).map fun (name, value) => (name, trim value) := by
  have hstrip : stripComments (rootBlock items).toList =
      ":root ".toList ++ '\x7b' :: ([] ++ (items.flatMap BlockItem.bare ++ ['\x7d'])) := by
    have htext : (rootBlock items).toList = ":root \x7b".toList ++
        ((String.join (items.map BlockItem.text)).toList ++ ['\x7d']) := by
      simp [rootBlock]
    rw [htext, stripComments_append (by decide) (by simp), stripComments_items]
    rfl
  -- The name of the block takes six characters, and the braces and the end the other three.
  have hlength : (stripComments (rootBlock items).toList).length + 1 =
      (items.flatMap BlockItem.bare).length + 3 + 6 := by
    rw [hstrip]
    simp
  -- No declaration begins in front of the brace.
  have hskip (room : Nat) (cs : List Char) :
      declarations (room + 6) true (":root ".toList ++ cs) = declarations room false cs := rfl
  rw [hlength, hstrip, hskip]
  exact declarations_items items (.inl rfl) (by simp) (by simp) false

end Variables

namespace RootVariables

open Variables

/-- A root block is read back: the declared names in the order of their first declarations, each
with the trimmed value of the first one. Names that stand only in comments or in values are not
declared. -/
theorem parse_rootBlock (items : List BlockItem) :
    (parse (rootBlock items)).table.keys = ((declaredIn items).map Prod.fst).eraseDups ∧
    (∀ name, (parse (rootBlock items)).get? name =
      (Table.lookup name (declaredIn items)).map trim) ∧
    ∀ name, (parse (rootBlock items)).contains name = true ↔
      name ∈ (declaredIn items).map Prod.fst := by
  have htable : (parse (rootBlock items)).table =
      ((declaredIn items).map fun (name, value) => (name, trim value)).foldl
        (fun t (name, value) => t.insertNew name value) .empty := by
    rw [← declarations_rootBlock]
    rfl
  have hkeys : (parse (rootBlock items)).table.keys =
      ((declaredIn items).map Prod.fst).eraseDups := by
    rw [htable, Table.keys_foldl_insertNew, List.map_map]
    simp [Table.keys, Table.empty, List.removeAll, Function.comp_def]
  refine ⟨hkeys, fun name => ?_, fun name => ?_⟩
  · rw [get?, htable, Table.get?_foldl_insertNew, Table.lookup_map]
    rfl
  · rw [contains, Table.contains_iff, hkeys, List.mem_eraseDups]

/-- A block with things in it that look like declarations: in a comment, in a value that goes on
for some lines, and a name for the second time. -/
def lookalikes : List BlockItem :=
  [.blanks "\n  " (List.all_eq_true.1 (by decide)),
    .comment " --old: 1px; " (by decide),
    .declaration "gap" " 2px\n--inner: \x7b 3px " (by decide) ⟨by decide, by decide, by decide⟩,
    .declaration "radius" "4px" (by decide) ⟨by decide, by decide, by decide⟩,
    .comment ":root \x7b --gap: 5px" (by decide),
    .declaration "gap" "6px" (by decide) ⟨by decide, by decide, by decide⟩]

theorem parse_rootBlock_lookalikes :
    (parse (rootBlock lookalikes)).table.keys = ["gap", "radius"] ∧
      (parse (rootBlock lookalikes)).get? "gap" = some "2px\n--inner: \x7b 3px" ∧
      (parse (rootBlock lookalikes)).get? "radius" = some "4px" ∧
      (parse (rootBlock lookalikes)).contains "inner" = false ∧
      (parse (rootBlock lookalikes)).contains "old" = false := by
  obtain ⟨hkeys, hget, hcontains⟩ := parse_rootBlock lookalikes
  refine ⟨?_, ?_, ?_, ?_, ?_⟩
  · rw [hkeys]
    decide
  · rw [hget]
    decide
  · rw [hget]
    decide
  · rw [Bool.eq_false_iff, ne_eq, hcontains]
    decide
  · rw [Bool.eq_false_iff, ne_eq, hcontains]
    decide

end RootVariables

end DocSite
