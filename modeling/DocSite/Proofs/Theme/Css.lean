import DocSite.Proofs.Text
import DocSite.Theme.Css

/-!
# Stylesheets read back

  A stylesheet is a list of declarations and of blocks, which are a head with more
  of the same between braces. Reading keeps the blocks that are open on a stack. The
  text of a rule is read back as its selector with its declarations, as long as
  nothing in it ends a declaration or a block before its time.
-/

namespace DocSite.Css

open DocSite.Text

/-! ## Reading -/

/-- What stands in a stylesheet: a declaration, or a head with what stands in the braces
behind it. -/
inductive Node where
  | declaration (property value : List Char)
  | block (head : List Char) (body : List Node)

/-- Puts the declaration that a text makes, reversed, in front of the nodes so far; a text without
characters makes none, and one without a colon is a fault. -/
def closeText? (text : List Char) (done : List Node) : Option (List Node) :=
  if text.isEmpty then some done
  else (splitOnce ':' text.reverse).map fun (property, value) =>
    .declaration (trimBoth property) (trimBoth value) :: done

/-- Reads nodes: the open text and the nodes of the open block are reversed, and with each block
around them stands its head, with the nodes in front of it. -/
def readNodes (text : List Char) (done : List Node) (around : List (List Char × List Node)) :
    List Char → Option (List Node)
  | [] => if text.isEmpty && around.isEmpty then some done.reverse else none
  | c :: cs =>
    -- Blanks in front of a head or a declaration do not belong to it.
    if text.isEmpty && isBlank c then readNodes [] done around cs
    else if c == ';' then (closeText? text done).bind fun done => readNodes [] done around cs
    else if c == '\x7b' then readNodes [] [] ((trimBoth text.reverse, done) :: around) cs
    else if c == '\x7d' then
      match around with
      | [] => none
      | (head, before) :: around =>
        (closeText? text done).bind fun body =>
          readNodes [] (.block head body.reverse :: before) around cs
    else readNodes (c :: text) done around cs

/-- The nodes of a stylesheet. -/
def nodes? (css : String) : Option (List Node) := readNodes [] [] [] css.toList

/-! ## Texts that are read as they stand -/

/-- The characters that end neither a declaration nor the head or the body of a block. -/
def isPlain (c : Char) : Bool := c != ';' && c != '\x7b' && c != '\x7d'

/-- A class of characters is plain if it has none of the three that end something. -/
theorem isPlain_of_class {p : Char → Bool}
    (hp : p ';' = false ∧ p '\x7b' = false ∧ p '\x7d' = false) {c : Char} (h : p c = true) :
    isPlain c = true := by
  by_contra hc
  simp only [isPlain, Bool.and_eq_true, bne_iff_ne, not_and_or, not_not] at hc
  rcases hc with (rfl | rfl) | rfl
  all_goals simp [h] at hp

theorem isPlain_of_isBlank {c : Char} (h : isBlank c = true) : isPlain c = true :=
  isPlain_of_class (by decide) h

theorem isPlain_of_isNameChar {c : Char} (h : isNameChar c = true) : isPlain c = true :=
  isPlain_of_class (by decide) h

/-! ### One step of reading -/

theorem closeText?_nil (done : List Node) : closeText? [] done = some done := rfl

section

variable {text : List Char} {done : List Node} {around : List (List Char × List Node)} {c : Char}

/-- A blank in front of a node is passed over. -/
theorem readNodes_blank (h : isBlank c = true) (cs : List Char) :
    readNodes [] done around (c :: cs) = readNodes [] done around cs := by
  rw [readNodes.eq_def]
  simp [h]

/-- Any other plain character goes to the open text, and so do blanks inside of it. -/
theorem readNodes_keep (h : isPlain c = true) (hstart : text ≠ [] ∨ isBlank c = false)
    (cs : List Char) :
    readNodes text done around (c :: cs) = readNodes (c :: text) done around cs := by
  have hkept : (text.isEmpty && isBlank c) = false := by
    rcases hstart with hne | hblank
    · rw [List.isEmpty_eq_false_iff.2 hne, Bool.false_and]
    · rw [hblank, Bool.and_false]
  simp only [isPlain, Bool.and_eq_true, bne_iff_ne] at h
  rw [readNodes.eq_def]
  simp [hkept, h.1.1, h.1.2, h.2]

theorem readNodes_semicolon (cs : List Char) : readNodes text done around (';' :: cs) =
    (closeText? text done).bind fun done => readNodes [] done around cs := by
  have hblank : isBlank ';' = false := by decide
  rw [readNodes.eq_def]
  simp [hblank]

theorem readNodes_open (cs : List Char) : readNodes text done around ('\x7b' :: cs) =
    readNodes [] [] ((trimBoth text.reverse, done) :: around) cs := by
  have hblank : isBlank '\x7b' = false := by decide
  rw [readNodes.eq_def]
  simp [hblank]

theorem readNodes_close (head : List Char) (before : List Node) (cs : List Char) :
    readNodes text done ((head, before) :: around) ('\x7d' :: cs) =
      (closeText? text done).bind fun body =>
        readNodes [] (.block head body.reverse :: before) around cs := by
  have hblank : isBlank '\x7d' = false := by decide
  rw [readNodes.eq_def]
  simp [hblank]

/-- Plain characters go to the open text as a whole. -/
theorem readNodes_run {run : List Char} (h : ∀ c ∈ run, isPlain c = true)
    (hstart : text ≠ [] ∨ ∀ c ∈ run.head?, isBlank c = false) (rest : List Char) :
    readNodes text done around (run ++ rest) = readNodes (run.reverse ++ text) done around rest := by
  induction run generalizing text with
  | nil => rfl
  | cons c run ih =>
    obtain ⟨hc, hrun⟩ := List.forall_mem_cons.1 h
    rw [List.cons_append, readNodes_keep hc (hstart.imp_right fun hhead => hhead c rfl),
      ih hrun (.inl (List.cons_ne_nil c text)), List.reverse_cons, List.append_assoc,
      List.singleton_append]

end

/-! ### Nodes in a text -/

/-- A text is read as nodes wherever a node may begin, and one may begin behind it again. -/
def Reads (text : List Char) (nodes : List Node) : Prop :=
  ∀ done around rest,
    readNodes [] done around (text ++ rest) = readNodes [] (nodes.reverse ++ done) around rest

theorem nodes?_of_reads {css : String} {nodes : List Node} (h : Reads css.toList nodes) :
    nodes? css = some nodes := by
  have hread := h [] [] []
  rw [List.append_nil, List.append_nil] at hread
  rw [nodes?, hread, readNodes, List.reverse_reverse]
  rfl

theorem Reads.append {text text' : List Char} {nodes nodes' : List Node} (h : Reads text nodes)
    (h' : Reads text' nodes') : Reads (text ++ text') (nodes ++ nodes') := by
  intro done around rest
  rw [List.append_assoc, h, h', List.reverse_append, List.append_assoc]

theorem reads_nil : Reads [] [] := fun _ _ _ => rfl

theorem reads_blank {text : List Char} (h : ∀ c ∈ text, isBlank c = true) : Reads text [] := by
  intro done around rest
  induction text with
  | nil => rfl
  | cons c text ih =>
    obtain ⟨hc, htext⟩ := List.forall_mem_cons.1 h
    rw [List.cons_append, readNodes_blank hc]
    exact ih htext

theorem reads_newline : Reads ['\n'] [] := by
  apply reads_blank
  intro c hc
  obtain rfl := List.mem_singleton.1 hc
  decide

/-- Texts that are read one after the other. -/
theorem reads_flatMap {α : Type} {text : α → List Char} {node : α → Node} {xs : List α}
    (h : ∀ x ∈ xs, Reads (text x) [node x]) : Reads (xs.flatMap text) (xs.map node) := by
  induction xs with
  | nil => exact reads_nil
  | cons x xs ih =>
    rw [List.forall_mem_cons] at h
    rw [List.flatMap_cons, List.map_cons, ← List.singleton_append]
    exact h.1.append (ih h.2)

/-- A property and a value, with a colon between them and a semicolon at the end. -/
theorem reads_declaration {property value : List Char}
    (hproperty : ∀ c ∈ property, isNameChar c = true) (hne : property ≠ [])
    (hvalue : ∀ c ∈ value, isPlain c = true) :
    Reads (property ++ ':' :: (value ++ [';'])) [.declaration property (trimBoth value)] := by
  intro done around rest
  have hgraphic (c : Char) (hc : c ∈ property) : IsGraphic c :=
    isGraphic_of_isNameChar (hproperty c hc)
  -- The property is cut off at the first colon, which is the one behind it.
  have hcolon : ':' ∉ property := by
    intro hmem
    have hname := hproperty ':' hmem
    revert hname
    decide
  have hplain : ∀ c ∈ property ++ ':' :: value, isPlain c = true := by
    rw [List.forall_mem_append, List.forall_mem_cons]
    exact ⟨fun c hc => isPlain_of_isNameChar (hproperty c hc), by decide, hvalue⟩
  have hhead : ∀ c ∈ (property ++ ':' :: value).head?, isBlank c = false := by
    intro c hc
    rw [List.head?_append_of_ne_nil _ hne] at hc
    exact (hgraphic c (List.mem_of_mem_head? hc)).not_blank
  have htrim : trimBoth property = property :=
    trimBoth_of_not_blank fun c hc => (hgraphic c hc).not_blank
  have hclose : closeText? (property ++ ':' :: value).reverse done =
      some (.declaration property (trimBoth value) :: done) := by
    rw [closeText?, if_neg (by simp), List.reverse_reverse, splitOnce_append hcolon]
    show some (Node.declaration (trimBoth property) _ :: done) = _
    rw [htrim]
  have htext : property ++ ':' :: (value ++ [';']) ++ rest =
      (property ++ ':' :: value) ++ ';' :: rest := by simp
  rw [htext, readNodes_run hplain (.inr hhead), List.append_nil, readNodes_semicolon, hclose]
  rfl

/-- A head and, between braces, what stands behind it. -/
theorem reads_block {head body : List Char} {nodes : List Node}
    (hhead : ∀ c ∈ head, isPlain c = true) (hstart : ∀ c ∈ head.head?, isBlank c = false)
    (hend : ∀ c ∈ head.getLast?, isBlank c = false) (hbody : Reads body nodes) :
    Reads (head ++ ' ' :: '\x7b' :: (body ++ ['\x7d'])) [.block head nodes] := by
  intro done around rest
  have hblank : isBlank ' ' = true := by decide
  -- The blank behind the head is part of the open text, unless there is no head at all.
  have hopen : readNodes [] done around ((head ++ [' ']) ++ '\x7b' :: (body ++ '\x7d' :: rest)) =
      readNodes [] [] ((head, done) :: around) (body ++ '\x7d' :: rest) := by
    cases head with
    | nil =>
      show readNodes [] done around (' ' :: '\x7b' :: (body ++ '\x7d' :: rest)) = _
      rw [readNodes_blank hblank, readNodes_open]
      rfl
    | cons c head =>
      have hplain : ∀ x ∈ c :: head ++ [' '], isPlain x = true := by
        rw [List.forall_mem_append, List.forall_mem_singleton]
        exact ⟨hhead, isPlain_of_isBlank hblank⟩
      rw [readNodes_run hplain (.inr hstart), List.append_nil, readNodes_open,
        List.reverse_reverse, trimBoth_append_blank hstart hend hblank]
  have htext : head ++ ' ' :: '\x7b' :: (body ++ ['\x7d']) ++ rest =
      (head ++ [' ']) ++ '\x7b' :: (body ++ '\x7d' :: rest) := by simp
  rw [htext, hopen, hbody, List.append_nil, readNodes_close, closeText?_nil, Option.bind_some,
    List.reverse_reverse]
  rfl

/-! ## Rules -/

theorem reads_indent (level : Nat) : Reads (indent level).toList [] := by
  apply reads_blank
  intro c hc
  rw [indent, String.toList_ofList] at hc
  obtain ⟨-, rfl⟩ := List.mem_replicate.1 hc
  decide

/-- A property whose name is made of letters, digits and hyphens once it is written. -/
structure IsWritable (property : String) : Prop where
  name : ∀ c ∈ (kebabCase property).toList, isNameChar c = true
  ne_nil : (kebabCase property).toList ≠ []

/-- A name is writable if its characters pass, one after the other. -/
theorem IsWritable.of_all {property : String}
    (h : ((kebabCase property).toList.all isNameChar && !(kebabCase property).isEmpty) = true) :
    IsWritable property := by
  rw [Bool.and_eq_true, List.all_eq_true, Bool.not_eq_true'] at h
  refine ⟨h.1, fun hnil => ?_⟩
  rw [String.toList_eq_nil_iff] at hnil
  simp [hnil] at h

/-- A declaration on a line of its own. -/
theorem reads_declarationLine {level : Nat} {property value : String} (hproperty : IsWritable property)
    (hvalue : ∀ c ∈ value.toList, isPlain c = true) :
    Reads (declaration level property value).toList
      [.declaration (kebabCase property).toList (trimBoth value.toList)] := by
  have hspaced : ∀ c ∈ ' ' :: value.toList, isPlain c = true :=
    List.forall_mem_cons.2 ⟨by decide, hvalue⟩
  have hline := ((reads_indent (level + 1)).append
    (reads_declaration hproperty.name hproperty.ne_nil hspaced)).append reads_newline
  rw [trimBoth_cons_blank (by decide)] at hline
  have htext : (declaration level property value).toList =
      (indent (level + 1)).toList ++
        ((kebabCase property).toList ++ ':' :: (' ' :: value.toList ++ [';'])) ++ ['\n'] := by
    simp [declaration]
  rw [htext]
  exact hline

/-- A rule is read as its selector with its declarations. -/
theorem reads_rule {selector : String} {declarations : List (String × String)}
    (hselector : ∀ c ∈ selector.toList, isPlain c = true ∧ isBlank c = false)
    (hdeclarations : ∀ d ∈ declarations, IsWritable d.1 ∧ ∀ c ∈ d.2.toList, isPlain c = true)
    (level : Nat) :
    Reads (rule level selector declarations).toList
      [.block selector.toList (declarations.map fun d =>
        .declaration (kebabCase d.1).toList (trimBoth d.2.toList))] := by
  have hlines : Reads (declarations.flatMap fun d => (declaration level d.1 d.2).toList)
      (declarations.map fun d =>
        .declaration (kebabCase d.1).toList (trimBoth d.2.toList)) :=
    reads_flatMap fun d hd => reads_declarationLine (hdeclarations d hd).1 (hdeclarations d hd).2
  -- The text of the rule is put together from parts that were read already.
  have hblock := reads_block (fun c hc => (hselector c hc).1)
    (fun c hc => (hselector c (List.mem_of_mem_head? hc)).2)
    (fun c hc => (hselector c (List.mem_of_mem_getLast? hc)).2)
    (reads_newline.append (hlines.append (reads_indent level)))
  have hrule := ((reads_indent level).append hblock).append reads_newline
  simp only [List.nil_append, List.append_nil] at hrule
  have htext : (rule level selector declarations).toList =
      (indent level).toList ++ (selector.toList ++ ' ' :: '\x7b' :: (['\n'] ++
        (declarations.flatMap (fun d => (declaration level d.1 d.2).toList) ++
          (indent level).toList) ++ ['\x7d'])) ++ ['\n'] := by
    simp [rule, List.flatMap_map]
  rw [htext]
  exact hrule

end DocSite.Css
