import DocSite.Proofs.Table
import DocSite.Proofs.Toml.Arrange
import DocSite.Proofs.Toml.Values

/-!
# Documents read back

  A document is read line by line into a draft: the tables finished so far and
  the one that the last header opened. The writer walks a table in depth, so each
  header names a table at the end of those already read. The proof follows that
  walk with a list of frames, one for each table between the root and the place
  where the next header adds something.

  A table that holds nothing but sub-tables has no header. It does not exist
  before the header of its first sub-table is read, but editing below it has the
  same effect as if it did.
-/

namespace DocSite.Toml

open DocSite.Text Scanner

/-! ## Entries at the end of a table -/

theorem lookup_last {α : Type} {key : String} {before : List (String × α)}
    (h : key ∉ before.map Prod.fst) (v : α) :
    Table.lookup key (before ++ [(key, v)]) = some v := by
  induction before with
  | nil => simp [Table.lookup]
  | cons e before ih =>
    obtain ⟨k, x⟩ := e
    rw [List.map_cons, List.mem_cons, not_or] at h
    rw [List.cons_append, Table.lookup, if_neg (Ne.symm h.1), ih h.2]

theorem put_last {α : Type} {key : String} {before : List (String × α)}
    (h : key ∉ before.map Prod.fst) (v w : α) :
    Table.put key w (before ++ [(key, v)]) = before ++ [(key, w)] := by
  induction before with
  | nil => simp [Table.put]
  | cons e before ih =>
    obtain ⟨k, x⟩ := e
    rw [List.map_cons, List.mem_cons, not_or] at h
    rw [List.cons_append, Table.put, if_neg (Ne.symm h.1), ih h.2, List.cons_append]

theorem editLast_append {β : Type} (f : Entries → Option (β × Entries)) (done : List Entries)
    (entries : Entries) :
    editLast f (done ++ [entries]) = (f entries).map fun e => (e.1, done ++ [e.2]) := by
  induction done with
  | nil => rfl
  | cons first done ih =>
    obtain ⟨next, more, hmore⟩ := List.exists_cons_of_ne_nil (l := done ++ [entries]) (by simp)
    rw [List.cons_append, hmore, editLast, ← hmore, ih, Option.map_map]
    · rfl
    · simp

theorem splitKey_append (path : List String) (key : String) :
    splitKey (path ++ [key]) = (path, key) := by
  induction path with
  | nil => rfl
  | cons part path ih =>
    obtain ⟨next, more, hmore⟩ := List.exists_cons_of_ne_nil (l := path ++ [key]) (by simp)
    rw [List.cons_append, hmore, splitKey, ← hmore, ih]
    simp

/-! ## Frames -/

/-- A table on the way from the root: the last one under its key, or the last item of the last
array of tables. -/
inductive Frame where
  | table (before : Entries) (key : String) (implicit : Bool)
  | item (before : Entries) (key : String) (done : List Entries)

namespace Frame

/-- The key under which the table stands. -/
def key : Frame → String
  | table _ key _ => key
  | item _ key _ => key

/-- What stands before it. -/
def before : Frame → Entries
  | table before _ _ => before
  | item before _ _ => before

/-- The entries around the table, when it has the given ones. -/
def fill : Frame → Entries → Entries
  | table before key implicit, entries => before ++ [(key, .table implicit false entries)]
  | item before key done, entries => before ++ [(key, .tables (done ++ [entries]))]

/-- The key of the table is new. -/
def Fresh (frame : Frame) : Prop := frame.key ∉ frame.before.map Prod.fst

/-- Editing below the key of a frame edits the table in it. -/
theorem editAt_fill {β : Type} (f : Bool → Entries → Option (β × Entries)) {frame : Frame}
    (h : frame.Fresh) (path : List String) (isDotted : Bool) (entries : Entries) :
    editAt false f (frame.key :: path) isDotted (frame.fill entries) =
      (editAt false f path false entries).map fun e => (e.1, frame.fill e.2) := by
  cases frame with
  | table before key implicit =>
    have hkey : key ∉ before.map Prod.fst := h
    simp only [Frame.key, fill, editAt, lookup_last hkey]
    cases editAt false f path false entries with
    | none => rfl
    | some e => simp [put_last hkey]
  | item before key done =>
    have hkey : key ∉ before.map Prod.fst := h
    simp only [Frame.key, fill, editAt, lookup_last hkey, editLast_append]
    cases editAt false f path false entries with
    | none => rfl
    | some e => simp [put_last hkey]

end Frame

/-- The entries of the root, when the innermost of the frames holds the given ones. -/
def plug : List Frame → Entries → Entries
  | [], entries => entries
  | frame :: frames, entries => frame.fill (plug frames entries)

/-- The keys on the way through the frames. -/
def keysOf (frames : List Frame) : List String := frames.map Frame.key

theorem plug_concat (frames : List Frame) (frame : Frame) (entries : Entries) :
    plug (frames ++ [frame]) entries = plug frames (frame.fill entries) := by
  induction frames with
  | nil => rfl
  | cons first frames ih => rw [List.cons_append, plug, plug, ih]

theorem keysOf_concat (frames : List Frame) (frame : Frame) :
    keysOf (frames ++ [frame]) = keysOf frames ++ [frame.key] := by
  simp [keysOf]

/-- Editing below the path of the frames has the effect of editing the entries in them. -/
def Reaches (root : Entries) (frames : List Frame) (entries : Entries) : Prop :=
  ∀ {β : Type} (f : Bool → Entries → Option (β × Entries)) (path : List String),
    editAt false f (keysOf frames ++ path) false root =
      (editAt false f path false entries).map fun e => (e.1, plug frames e.2)

theorem reaches_plug {frames : List Frame} (h : ∀ frame ∈ frames, frame.Fresh) (entries : Entries) :
    Reaches (plug frames entries) frames entries := by
  intro β f path
  induction frames with
  | nil =>
    cases hedit : editAt false f path false entries <;> simp [keysOf, plug, hedit]
  | cons frame frames ih =>
    have hrest := ih fun x hx => h x (List.mem_cons_of_mem _ hx)
    have hkeys : keysOf (frame :: frames) ++ path = frame.key :: (keysOf frames ++ path) := rfl
    rw [hkeys, plug, frame.editAt_fill f (h frame (by simp)), hrest, Option.map_map]
    rfl

/-- Editing below a new key creates the table of that key as an implied one. -/
theorem Reaches.implied {root entries : Entries} {frames : List Frame} {key : String}
    (h : Reaches root frames entries) (hkey : key ∉ entries.map Prod.fst) :
    Reaches root (frames ++ [.table entries key true]) [] := by
  intro β f path
  have hlookup : Table.lookup key entries = none := (Table.lookup_eq_none_iff key entries).2 hkey
  have hedit := h f (key :: path)
  rw [editAt] at hedit
  simp only [hlookup] at hedit
  rw [keysOf_concat, List.append_assoc]
  refine hedit.trans ?_
  cases editAt false f path false [] with
  | none => rfl
  | some e =>
    simp only [Option.bind_eq_bind, Option.bind_some, Option.map_some, plug_concat]
    rfl

/-! ## The draft -/

namespace Draft

/-- Closing the open table leaves a root in which the frames reach some entries. -/
def Stands (d : Draft) (frames : List Frame) (entries : Entries) : Prop :=
  ∃ root, d.close = some { root } ∧ Reaches root frames entries

/-- Closing the open table leaves the frames with some entries. -/
def Holds (d : Draft) (frames : List Frame) (entries : Entries) : Prop :=
  d.close = some { root := plug frames entries }

theorem Holds.stands {d : Draft} {frames : List Frame} {entries : Entries}
    (h : d.Holds frames entries) (hfresh : ∀ frame ∈ frames, frame.Fresh) :
    d.Stands frames entries :=
  ⟨_, h, reaches_plug hfresh entries⟩

theorem Stands.implied {d : Draft} {frames : List Frame} {entries : Entries} {key : String}
    (h : d.Stands frames entries) (hkey : key ∉ entries.map Prod.fst) :
    d.Stands (frames ++ [.table entries key true]) [] := by
  obtain ⟨root, hclose, hreaches⟩ := h
  exact ⟨root, hclose, hreaches.implied hkey⟩

/-- What an edit does with the entries in the frames, it does with the root. -/
theorem editAt_keysOf {root entries t : Entries} {frames : List Frame} {β : Type} {b : β}
    {f : Bool → Entries → Option (β × Entries)} (h : Reaches root frames entries)
    (hf : f false entries = some (b, t)) :
    editAt false f (keysOf frames) false root = some (b, plug frames t) := by
  have hedit := h f []
  rw [List.append_nil, editAt, hf] at hedit
  exact hedit

theorem editTable_keysOf {root entries t : Entries} {frames : List Frame}
    {f : Entries → Option Entries} (h : Reaches root frames entries) (hf : f entries = some t) :
    editTable f (keysOf frames) root = some (plug frames t) := by
  have hedit : (f entries).map ((), ·) = some ((), t) := by rw [hf]; rfl
  rw [editTable, editAt_keysOf h hedit]
  rfl

variable {d : Draft} {frames : List Frame} {entries : Entries} {key : String}

/-- The header of a new table opens it behind the entries that are there. -/
theorem openTable_eq (h : d.Stands frames entries) (hkey : key ∉ entries.map Prod.fst) :
    d.openTable (keysOf frames ++ [key]) =
      some { root := plug frames entries, path := keysOf frames ++ [key] } := by
  obtain ⟨root, hclose, hreaches⟩ := h
  have hlookup : Table.lookup key entries = none := (Table.lookup_eq_none_iff key entries).2 hkey
  unfold openTable
  simp only [hclose, splitKey_append, Option.bind_eq_bind, Option.bind_some]
  rw [editAt_keysOf (b := ([] : Entries)) (t := entries) hreaches]
  · rfl
  · simp only [hlookup]

/-- The table that a header has opened is closed in its place. -/
theorem holds_of_openTable (hfresh : ∀ frame ∈ frames, frame.Fresh) (current : Entries) :
    Holds { root := plug frames entries, current, path := keysOf frames ++ [key] }
      (frames ++ [.table entries key false]) current := by
  unfold Holds close
  split
  · rename_i hnil
    simp at hnil
  · simp only [splitKey_append, Bool.false_eq_true, if_false]
    rw [editTable_keysOf (t := entries ++ [(key, .table false false current)])
      (reaches_plug hfresh entries), plug_concat]
    · rfl
    · rfl

/-- The header of an item opens it behind the items that are there. -/
theorem openArrayTable_eq {done : List Entries}
    (h : (done = [] ∧ d.Stands frames entries) ∨
      d.Stands frames (entries ++ [(key, .tables done)]))
    (hkey : key ∉ entries.map Prod.fst) :
    d.openArrayTable (keysOf frames ++ [key]) =
      some { root := plug frames (entries ++ [(key, .tables done)])
             path := keysOf frames ++ [key], inArray := true } := by
  unfold openArrayTable
  rcases h with ⟨rfl, root, hclose, hreaches⟩ | ⟨root, hclose, hreaches⟩
  · have hlookup : Table.lookup key entries = none :=
      (Table.lookup_eq_none_iff key entries).2 hkey
    simp only [hclose, splitKey_append, Option.bind_eq_bind, Option.bind_some]
    rw [editTable_keysOf (t := entries ++ [(key, .tables [])]) hreaches]
    · rfl
    · simp only [hlookup]
  · simp only [hclose, splitKey_append, Option.bind_eq_bind, Option.bind_some]
    rw [editTable_keysOf (t := entries ++ [(key, .tables done)]) hreaches]
    · rfl
    · simp only [lookup_last hkey]

/-- The item that a header has opened is closed as the last one. -/
theorem holds_of_openArrayTable (hfresh : ∀ frame ∈ frames, frame.Fresh)
    (hkey : key ∉ entries.map Prod.fst) (done : List Entries) (current : Entries) :
    Holds { root := plug frames (entries ++ [(key, .tables done)]), current
            path := keysOf frames ++ [key], inArray := true }
      (frames ++ [.item entries key done]) current := by
  unfold Holds close
  split
  · rename_i hnil
    simp at hnil
  · simp only [splitKey_append, if_true]
    rw [editTable_keysOf (t := entries ++ [(key, .tables (done ++ [current]))])
      (reaches_plug hfresh _), plug_concat]
    · rfl
    · simp only [lookup_last hkey, put_last hkey]

end Draft

/-! ## Lines -/

/-- Reading some text takes a draft to another one, in at most one line for two characters. -/
def Takes (d : Draft) (cs : List Char) (d' : Draft) : Prop :=
  ∃ n, 2 * n ≤ cs.length ∧ ∀ room rest, lines? (room + n) d (cs ++ rest) = lines? room d' rest

theorem Takes.refl (d : Draft) : Takes d [] d := ⟨0, le_rfl, fun _ _ => rfl⟩

theorem Takes.trans {d d₁ d₂ : Draft} {cs₁ cs₂ : List Char} (h₁ : Takes d cs₁ d₁)
    (h₂ : Takes d₁ cs₂ d₂) : Takes d (cs₁ ++ cs₂) d₂ := by
  obtain ⟨n₁, hle₁, h₁⟩ := h₁
  obtain ⟨n₂, hle₂, h₂⟩ := h₂
  refine ⟨n₂ + n₁, ?_, fun room rest => ?_⟩
  · rw [List.length_append]
    omega
  · rw [List.append_assoc, ← Nat.add_assoc, h₁, h₂]

theorem Takes.append {d d₁ d₂ : Draft} {first second : String} (h₁ : Takes d first.toList d₁)
    (h₂ : Takes d₁ second.toList d₂) : Takes d (first ++ second).toList d₂ := by
  rw [String.toList_append]
  exact h₁.trans h₂

/-- Texts that differ in front of their first line have the same lines. -/
theorem lines?_congr (room : Nat) (d : Draft) {cs cs' : List Char}
    (h : skipTrivia false cs = skipTrivia false cs') : lines? room d cs = lines? room d cs' := by
  cases room with
  | zero => rfl
  | succ room => rw [lines?, lines?, h]

theorem lines?_newline (room : Nat) (d : Draft) (cs : List Char) :
    lines? room d ('\n' :: cs) = lines? room d cs :=
  lines?_congr room d (by simp [skipTrivia])

/-- An empty line says nothing. -/
theorem takes_newline (d : Draft) : Takes d "\n".toList d :=
  ⟨0, by simp, fun room rest => lines?_newline room d rest⟩

theorem skipTrivia_comment {line : List Char} (h : ∀ c ∈ line, isPlain c = true)
    (rest : List Char) : skipTrivia true (line ++ '\n' :: rest) = skipTrivia false rest := by
  induction line with
  | nil => simp [skipTrivia]
  | cons c line ih =>
    obtain ⟨hc, hline⟩ := List.forall_mem_cons.1 h
    have hreturn : c ≠ '\r' := by
      rintro rfl
      exact absurd hc (by decide)
    have hfeed : c ≠ '\n' := by
      rintro rfl
      exact absurd hc (by decide)
    rw [List.cons_append, skipTrivia]
    · simp [hfeed, hc, ih hline]
    · simp [hreturn]

/-- A comment says nothing. -/
theorem takes_comment (d : Draft) {line : List Char} (h : ∀ c ∈ line, isPlain c = true) :
    Takes d ('#' :: (line ++ ['\n'])) d := by
  refine ⟨0, by simp, fun room rest => lines?_congr room d ?_⟩
  have hskip := skipTrivia_comment h rest
  simpa [skipTrivia, isSpace] using hskip

/-- A line with something on it is read in one step. -/
theorem takes_of_line? {d d' : Draft} {c : Char} {tail : List Char} (htail : tail ≠ [])
    (hstart : isSpace c = false ∧ c ≠ '\n' ∧ c ≠ '\r' ∧ c ≠ '#')
    (h : ∀ rest, line? d (c :: tail ++ rest) = some (d', rest)) : Takes d (c :: tail) d' := by
  obtain ⟨hspace, hfeed, hreturn, hcomment⟩ := hstart
  refine ⟨1, ?_, fun room rest => ?_⟩
  · have hpos := List.length_pos_iff.2 htail
    rw [List.length_cons]
    omega
  · have hskip := skipTrivia_of_start (tail ++ rest) hspace hfeed hreturn hcomment
    rw [lines?, List.cons_append, hskip]
    simp only [← List.cons_append, h, Option.bind_eq_bind, Option.bind_some]

theorem lineEnd?_newline (rest : List Char) : lineEnd? ('\n' :: rest) = some rest := rfl

/-- The line of a key and its value adds an entry to the open table. -/
theorem takes_line {d : Draft} {key text : String} {v : Value} (h : ReadsLine text v)
    (hkey : key ∉ d.current.map Prod.fst) :
    Takes d (lineOf key text).toList { d with current := d.current ++ [(key, .value v)] } := by
  have hlookup : Table.lookup key d.current = none :=
    (Table.lookup_eq_none_iff key d.current).2 hkey
  have hadd : d.addLine [key] v = some { d with current := d.current ++ [(key, .value v)] } := by
    simp [Draft.addLine, splitKey, insertValue, editAt, hlookup]
  have hread := keyValue?_lineOf key h
  -- The key begins with a character that no other kind of line begins with.
  obtain ⟨c, tail, htext, hc⟩ := exists_keyText key
  obtain ⟨hspace, hfeed, hreturn, hcomment, hopen, -⟩ := hc.ne
  have hline : (lineOf key text).toList = c :: (tail ++ (" = " ++ text ++ "\n").toList) := by
    simp [lineOf, htext]
  rw [hline] at hread ⊢
  refine takes_of_line? (by simp) ⟨hspace, hfeed, hreturn, hcomment⟩ ?_
  intro rest
  have hvalue := hread rest
  rw [List.cons_append] at hvalue ⊢
  unfold line?
  split
  · rename_i heq
    exact absurd (List.cons.inj heq).1 hopen
  · rename_i heq
    exact absurd (List.cons.inj heq).1 hopen
  · simp only [hvalue, Option.bind_eq_bind, Option.bind_some, lineEnd?_newline, hadd]

theorem head_headerPath {path : List String} (hne : path ≠ []) :
    ∃ c tail, (headerPath path).toList = c :: tail ∧ c ≠ '[' := by
  obtain ⟨key, path, rfl⟩ := List.exists_cons_of_ne_nil hne
  obtain ⟨c, tail, htext, hc⟩ := exists_keyText key
  have hopen : c ≠ '[' := hc.ne.2.2.2.2.1
  cases path with
  | nil => exact ⟨c, tail, htext, hopen⟩
  | cons next path =>
    refine ⟨c, tail ++ '.' :: (headerPath (next :: path)).toList, ?_, hopen⟩
    simp [headerPath, joinText, htext]

/-- The header of a table opens it. -/
theorem takes_header {d d' : Draft} {path : List String} (hne : path ≠ [])
    (hlimit : path.length ≤ nestingLimit) (h : d.openTable path = some d') :
    Takes d ("[" ++ headerPath path ++ "]\n").toList d' := by
  have htext : ("[" ++ headerPath path ++ "]\n").toList =
      '[' :: ((headerPath path).toList ++ [']', '\n']) := by simp
  rw [htext]
  refine takes_of_line? (by simp) (by decide) fun rest => ?_
  have hkey : key? ((headerPath path).toList ++ ']' :: '\n' :: rest) =
      some (path, ']' :: '\n' :: rest) :=
    key?_headerPath hne hlimit (by simp [isNameChar]) (by simp [skipSpaces, isSpace])
  -- What is behind the bracket does not begin with another one, as an array header would.
  obtain ⟨c, tail, hpath, hopen⟩ := head_headerPath hne
  rw [hpath] at hkey ⊢
  simp only [List.cons_append, List.append_assoc, List.nil_append] at hkey ⊢
  unfold line?
  split
  · rename_i heq
    exact absurd (List.cons.inj (List.cons.inj heq).2).1 hopen
  · rename_i heq
    obtain ⟨-, rfl⟩ := List.cons.inj heq
    simp only [hkey, Option.bind_eq_bind, Option.bind_some, mark?, beq_self_eq_true, if_true,
      lineEnd?_newline, h]
  · rename_i hone
    exact absurd rfl (hone _)

/-- The header of an item opens it. -/
theorem takes_arrayHeader {d d' : Draft} {path : List String} (hne : path ≠ [])
    (hlimit : path.length ≤ nestingLimit) (h : d.openArrayTable path = some d') :
    Takes d ("[[" ++ headerPath path ++ "]]\n").toList d' := by
  have htext : ("[[" ++ headerPath path ++ "]]\n").toList =
      '[' :: ('[' :: ((headerPath path).toList ++ [']', ']', '\n'])) := by simp
  rw [htext]
  refine takes_of_line? (by simp) (by decide) fun rest => ?_
  have hkey : key? ((headerPath path).toList ++ ']' :: ']' :: '\n' :: rest) =
      some (path, ']' :: ']' :: '\n' :: rest) :=
    key?_headerPath hne hlimit (by simp [isNameChar]) (by simp [skipSpaces, isSpace])
  simp only [List.cons_append, List.append_assoc, List.nil_append, line?, hkey,
    Option.bind_eq_bind, Option.bind_some, mark?, beq_self_eq_true, if_true, lineEnd?_newline, h]

/-- The plain entries of a table as they are read. -/
def lineNodes (entries : List (String × Value)) : Entries :=
  (plainEntries entries).map fun e => (e.1, .value e.2)

theorem keys_lineNodes (entries : List (String × Value)) :
    (lineNodes entries).map Prod.fst = (plainEntries entries).map Prod.fst := by
  simp [lineNodes]

/-- The lines of a table fill the open one. -/
theorem takes_plainLines {d : Draft} {entries : List (String × Value)}
    (hlines : ∀ e ∈ entries, e.2.isSection = false → e.2.IsLine)
    (hnodup : ((d.current.map Prod.fst) ++ entries.map Prod.fst).Nodup) :
    Takes d (plainLines entries).toList
      { d with current := d.current ++ lineNodes entries } := by
  induction entries generalizing d with
  | nil => simpa [plainLines, lineNodes, plainEntries] using Takes.refl d
  | cons e entries ih =>
    obtain ⟨key, v⟩ := e
    have hkey : key ∉ d.current.map Prod.fst := by
      intro hmem
      exact (List.nodup_append.1 hnodup).2.2 key hmem key (by simp) rfl
    have hlines' : ∀ e ∈ entries, e.2.isSection = false → e.2.IsLine := fun e he =>
      hlines e (List.mem_cons_of_mem _ he)
    -- A section has no line in the table.
    cases hplain : v.isSection with
    | true =>
      have htext : plainLines ((key, v) :: entries) = plainLines entries := by
        simp [plainLines, hplain]
      have hnodes : lineNodes ((key, v) :: entries) = lineNodes entries := by
        simp [lineNodes, plainEntries, hplain]
      rw [htext, hnodes]
      refine ih hlines' (hnodup.sublist ?_)
      exact List.Sublist.append_left (by simp) _
    | false =>
      -- Any other value adds its line, and its node to the draft.
      have htext : plainLines ((key, v) :: entries) = lineOf key v.text ++ plainLines entries := by
        simp [plainLines, hplain, lineOf, String.join_cons]
      have hnodes : lineNodes ((key, v) :: entries) = (key, .value v) :: lineNodes entries := by
        simp [lineNodes, plainEntries, hplain]
      rw [htext, hnodes]
      have hfirst := takes_line (hlines (key, v) (by simp) hplain).readsLine hkey
      refine hfirst.append ?_
      have hrest := @ih { d with current := d.current ++ [(key, .value v)] } hlines'
        (by simpa using hnodup)
      simpa using hrest

/-! ## Sections -/

theorem finishEntries_append (first second : Entries) :
    finishEntries (first ++ second) = finishEntries first ++ finishEntries second := by
  induction first with
  | nil => rfl
  | cons e first ih =>
    obtain ⟨key, node⟩ := e
    rw [List.cons_append, finishEntries, finishEntries, ih, List.cons_append]

theorem finishEntries_lineNodes (entries : List (String × Value)) :
    finishEntries (lineNodes entries) = plainEntries entries := by
  unfold lineNodes
  induction plainEntries entries with
  | nil => rfl
  | cons e entries ih => rw [List.map_cons, finishEntries, ih, Node.finish]

/-- The text of a section, behind what the frames hold, adds the section to them; `room` bounds the
number of sections inside each other. -/
def ReadsSection (room : Nat) (v : Value) : Prop :=
  ∀ ⦃frames : List Frame⦄ ⦃entries : Entries⦄ ⦃key : String⦄ ⦃d : Draft⦄,
    (∀ frame ∈ frames, frame.Fresh) → key ∉ entries.map Prod.fst →
    frames.length + room ≤ nestingLimit → d.Stands frames entries →
    ∃ d' node, Takes d (section? (keysOf frames ++ [key]) v).toList d' ∧
      node.finish = v.arranged ∧ d'.Holds frames (entries ++ [(key, node)])

/-- The sections of a table are read one after the other. Without any, the draft stays. -/
theorem takes_sections {room : Nat} {table : List (String × Value)}
    (hread : ∀ e ∈ table, e.2.isSection = true → ReadsSection room e.2)
    {frames : List Frame} {entries : Entries} {d : Draft}
    (hfresh : ∀ frame ∈ frames, frame.Fresh)
    (hnodup : (entries.map Prod.fst ++
      (table.filter fun e => e.2.isSection).map Prod.fst).Nodup)
    (hroom : frames.length + room ≤ nestingLimit) (hstands : d.Stands frames entries) :
    ∃ d' nodes, Takes d (sections (keysOf frames) table).toList d' ∧
      finishEntries nodes = arrangedSections table ∧
      ((d' = d ∧ nodes = []) ∨ d'.Holds frames (entries ++ nodes)) := by
  induction table generalizing entries d with
  | nil => exact ⟨d, [], Takes.refl d, rfl, .inl ⟨rfl, rfl⟩⟩
  | cons e table ih =>
    obtain ⟨key, v⟩ := e
    have hread' : ∀ e ∈ table, e.2.isSection = true → ReadsSection room e.2 := fun e he =>
      hread e (List.mem_cons_of_mem _ he)
    rw [sections]
    cases hsection : v.isSection with
    | false =>
      -- A plain value is not written among the sections.
      rw [section?_of_not_isSection hsection, String.empty_append, arrangedSections,
        if_neg (by simp [hsection])]
      refine ih hread' ?_ hstands
      simpa [hsection] using hnodup
    | true =>
      have hfilter : ((key, v) :: table).filter (fun e => e.2.isSection) =
          (key, v) :: table.filter fun e => e.2.isSection := List.filter_cons_of_pos hsection
      rw [hfilter, List.map_cons] at hnodup
      have hkey : key ∉ entries.map Prod.fst := by
        intro hmem
        exact (List.nodup_append.1 hnodup).2.2 key hmem key (by simp) rfl
      -- The section is read first, and its key is taken from then on.
      obtain ⟨d₁, node, htakes, hfinish, hholds⟩ :=
        hread (key, v) (by simp) hsection hfresh hkey hroom hstands
      obtain ⟨d₂, nodes, htakes', hfinish', hend⟩ := ih hread' (by simpa using hnodup)
        (hholds.stands hfresh)
      refine ⟨d₂, (key, node) :: nodes, htakes.append htakes', ?_, .inr ?_⟩
      · rw [finishEntries, hfinish, hfinish', arrangedSections, if_pos hsection]
      · rcases hend with ⟨rfl, rfl⟩ | hend
        · exact hholds
        · rw [← List.append_cons] at hend
          exact hend

/-- The entries of a table that is read: keys without repetition, plain values that stand on a
line, and sections that can be read. -/
structure ReadsEntries (room : Nat) (table : List (String × Value)) : Prop where
  nodup : (table.map Prod.fst).Nodup
  lines : ∀ e ∈ table, e.2.isSection = false → e.2.IsLine
  sections : ∀ e ∈ table, e.2.isSection = true → ReadsSection room e.2

theorem ReadsEntries.nodup_parts {room : Nat} {table : List (String × Value)}
    (h : ReadsEntries room table) :
    ((lineNodes table).map Prod.fst ++
      (table.filter fun e => e.2.isSection).map Prod.fst).Nodup := by
  rw [keys_lineNodes, ← List.map_append]
  have hperm := List.filter_append_perm (fun e : String × Value => !e.2.isSection) table
  simp only [Bool.not_not] at hperm
  exact (hperm.map Prod.fst).nodup_iff.2 h.nodup

/-- The lines and sections of a table, read into a table that was just opened. -/
theorem takes_table {room : Nat} {table : List (String × Value)} (h : ReadsEntries room table)
    {frames : List Frame} {d : Draft} (hfresh : ∀ frame ∈ frames, frame.Fresh)
    (hroom : frames.length + room ≤ nestingLimit) (hempty : d.current = [])
    (hopen : ∀ current, Draft.Holds { d with current } frames current) :
    ∃ d' nodes, Takes d (plainLines table ++ sections (keysOf frames) table).toList d' ∧
      finishEntries nodes = plainEntries table ++ arrangedSections table ∧
      d'.Holds frames nodes := by
  have hlines : Takes d (plainLines table).toList { d with current := lineNodes table } := by
    have htakes := @takes_plainLines d table h.lines (by simpa [hempty] using h.nodup)
    simpa [hempty] using htakes
  have hholds := hopen (lineNodes table)
  obtain ⟨d', nodes, htakes, hfinish, hend⟩ :=
    takes_sections h.sections hfresh h.nodup_parts hroom (hholds.stands hfresh)
  refine ⟨d', lineNodes table ++ nodes, ?_, ?_, ?_⟩
  · exact hlines.append htakes
  · rw [finishEntries_append, finishEntries_lineNodes, hfinish]
  · rcases hend with ⟨rfl, rfl⟩ | hend
    · rw [List.append_nil]
      exact hholds
    · exact hend

theorem Frame.fresh_concat {frames : List Frame} {frame : Frame}
    (h : ∀ x ∈ frames, x.Fresh) (hframe : frame.Fresh) : ∀ x ∈ frames ++ [frame], x.Fresh := by
  intro x hx
  rcases List.mem_append.1 hx with hx | hx
  · exact h x hx
  · rw [List.mem_singleton.1 hx]
    exact hframe

/-- A table with a header is read under it. -/
theorem readsSection_of_header {room : Nat} {table : List (String × Value)}
    (h : ReadsEntries room table) (hheader : hasHeader table = true) :
    ReadsSection (room + 1) (.table table) := by
  intro frames entries key d hfresh hkey hroom hstands
  have hlength : (keysOf frames ++ [key]).length ≤ nestingLimit := by
    simp [keysOf]
    omega
  -- The header opens the table, and what is in it follows.
  have hopen := Draft.openTable_eq hstands hkey
  have htakes := (takes_newline d).append (takes_header (by simp) hlength hopen)
  have hheading : "\n[" ++ headerPath (keysOf frames ++ [key]) ++ "]\n" =
      "\n" ++ ("[" ++ headerPath (keysOf frames ++ [key]) ++ "]\n") := by
    simp [← String.toList_inj]
  have hframe : (Frame.table entries key false).Fresh := hkey
  obtain ⟨d', nodes, htable, hfinish, hholds⟩ := takes_table h
    (d := { root := plug frames entries, path := keysOf frames ++ [key] })
    (Frame.fresh_concat hfresh hframe) (by simp; omega) rfl
    fun current => Draft.holds_of_openTable hfresh current
  rw [keysOf_concat] at htable
  refine ⟨d', .table false false nodes, ?_, ?_, ?_⟩
  · rw [section?, if_pos hheader, String.append_assoc, hheading]
    exact htakes.append htable
  · rw [Node.finish, hfinish, Value.arranged]
  · rw [Draft.Holds, plug_concat] at hholds
    exact hholds

/-- Without a header, a table has entries, and each of them is a section. -/
theorem hasHeader_eq_false_iff {table : List (String × Value)} :
    hasHeader table = false ↔ table ≠ [] ∧ ∀ e ∈ table, e.2.isSection = true := by
  simp only [hasHeader, Bool.or_eq_false_iff, List.isEmpty_eq_false_iff, List.any_eq_false,
    Bool.not_eq_true', Bool.not_eq_false]

theorem plainEntries_eq_nil {table : List (String × Value)}
    (h : ∀ e ∈ table, e.2.isSection = true) : plainEntries table = [] := by
  refine List.filter_eq_nil_iff.2 fun e he => ?_
  simpa using h e he

/-- A table without a header is read through those of its sections. -/
theorem readsSection_of_sections {room : Nat} {table : List (String × Value)}
    (h : ReadsEntries room table) (hheader : hasHeader table = false) :
    ReadsSection (room + 1) (.table table) := by
  intro frames entries key d hfresh hkey hroom hstands
  obtain ⟨hne, hall⟩ := hasHeader_eq_false_iff.1 hheader
  have hplain := plainEntries_eq_nil hall
  have htext : plainLines table = "" := by
    have hnone : table.filter (fun e => !e.2.isSection) = [] := hplain
    simp [plainLines, hnone]
  have hframe : (Frame.table entries key true).Fresh := hkey
  have hnodup : (([] : Entries).map Prod.fst ++
      (table.filter fun e => e.2.isSection).map Prod.fst).Nodup :=
    h.nodup.sublist (List.Sublist.map _ List.filter_sublist)
  -- The first header of a section brings the table about.
  obtain ⟨d', nodes, htakes, hfinish, hend⟩ := takes_sections h.sections
    (Frame.fresh_concat hfresh hframe) hnodup (by simp; omega) (hstands.implied hkey)
  rw [keysOf_concat] at htakes
  have hnodes : nodes ≠ [] := by
    rintro rfl
    obtain ⟨e, rest, rfl⟩ := List.exists_cons_of_ne_nil hne
    have hsection : e.2.isSection = true := hall e (by simp)
    rw [finishEntries, arrangedSections, if_pos hsection] at hfinish
    simp at hfinish
  refine ⟨d', .table true false nodes, ?_, ?_, ?_⟩
  · rw [section?, if_neg (by simp [hheader]), htext, String.empty_append,
      String.empty_append]
    exact htakes
  · rw [Node.finish, hfinish, Value.arranged, hplain, List.nil_append]
  · rcases hend with ⟨-, hnil⟩ | hholds
    · exact absurd hnil hnodes
    · rw [Draft.Holds, plug_concat, List.nil_append] at hholds
      exact hholds

/-- A table is read as a section. -/
theorem readsSection_table {room : Nat} {table : List (String × Value)}
    (h : ReadsEntries room table) : ReadsSection (room + 1) (.table table) := by
  cases hheader : hasHeader table with
  | true => exact readsSection_of_header h hheader
  | false => exact readsSection_of_sections h hheader

/-- The items of an array of tables are read one after the other. -/
theorem takes_arraySections {room : Nat} {tables : List (List (String × Value))}
    (hne : tables ≠ []) (hread : ∀ table ∈ tables, ReadsEntries room table)
    {frames : List Frame} {entries : Entries} {key : String} {done : List Entries} {d : Draft}
    (hfresh : ∀ frame ∈ frames, frame.Fresh) (hkey : key ∉ entries.map Prod.fst)
    (hroom : frames.length + (room + 1) ≤ nestingLimit)
    (hstands : (done = [] ∧ d.Stands frames entries) ∨
      d.Stands frames (entries ++ [(key, .tables done)])) :
    ∃ d' items, Takes d (arraySections (keysOf frames ++ [key]) (tables.map .table)).toList d' ∧
      finishTables items = arrangedItems (tables.map .table) ∧
      d'.Holds frames (entries ++ [(key, .tables (done ++ items))]) := by
  induction tables generalizing done d with
  | nil => exact absurd rfl hne
  | cons table tables ih =>
    have hlength : (keysOf frames ++ [key]).length ≤ nestingLimit := by
      simp [keysOf]
      omega
    have hopen := Draft.openArrayTable_eq hstands hkey
    have htakes := (takes_newline d).append (takes_arrayHeader (by simp) hlength hopen)
    have hheading : "\n[[" ++ headerPath (keysOf frames ++ [key]) ++ "]]\n" =
        "\n" ++ ("[[" ++ headerPath (keysOf frames ++ [key]) ++ "]]\n") := by
      simp [← String.toList_inj]
    have hframe : (Frame.item entries key done).Fresh := hkey
    obtain ⟨d₁, nodes, htable, hfinish, hholds⟩ := takes_table (hread table (by simp))
      (d := { root := plug frames (entries ++ [(key, .tables done)])
              path := keysOf frames ++ [key], inArray := true })
      (Frame.fresh_concat hfresh hframe) (by simp; omega) rfl
      fun current => Draft.holds_of_openArrayTable hfresh hkey done current
    rw [keysOf_concat] at htable
    rw [Draft.Holds, plug_concat] at hholds
    have hfirst : Takes d ("\n[[" ++ headerPath (keysOf frames ++ [key]) ++ "]]\n" ++
        plainLines table ++ sections (keysOf frames ++ [key]) table).toList d₁ := by
      rw [String.append_assoc, hheading]
      exact htakes.append htable
    rw [List.map_cons, arraySections]
    -- The last of the tables ends the array.
    cases tables with
    | nil =>
      refine ⟨d₁, [nodes], ?_, ?_, hholds⟩
      · exact hfirst.append (Takes.refl d₁)
      · rw [finishTables, hfinish, arrangedItems, Value.arranged]
        rfl
    | cons next tables =>
      have hmore : d₁.Holds frames (entries ++ [(key, .tables (done ++ [nodes]))]) := hholds
      obtain ⟨d₂, items, htakes', hfinish', hend⟩ := ih (by simp)
        (fun x hx => hread x (List.mem_cons_of_mem _ hx)) (.inr (hmore.stands hfresh))
      refine ⟨d₂, nodes :: items, hfirst.append htakes', ?_, ?_⟩
      · rw [finishTables, hfinish, hfinish', arrangedItems, Value.arranged]
      · rw [← List.append_cons] at hend
        exact hend

/-- An array of tables is read as a section. -/
theorem readsSection_tables {room : Nat} {tables : List (List (String × Value))}
    (hne : tables ≠ []) (h : ∀ table ∈ tables, ReadsEntries room table) :
    ReadsSection (room + 1) (.array (tables.map .table)) := by
  intro frames entries key d hfresh hkey hroom hstands
  have hsection : (Value.array (tables.map .table)).isSection = true := by
    simp [Value.isSection, Value.isTable, hne]
  obtain ⟨d', items, htakes, hfinish, hholds⟩ :=
    takes_arraySections hne h hfresh hkey hroom (.inl ⟨rfl, hstands⟩)
  refine ⟨d', .tables items, ?_, ?_, hholds⟩
  · rw [section?, if_pos hsection]
    exact htakes
  · rw [Node.finish, hfinish, Value.arranged, if_pos hsection]

/-! ## Whole documents -/

/-- A value that is written so that it can be read: a line, or sections nested no deeper than the
room left for them. -/
def Value.Writable : (room : Nat) → Value → Prop
  | 0, v => v.isSection = false ∧ v.IsLine
  | room + 1, v =>
    (v.isSection = false ∧ v.IsLine) ∨
      (∃ table, v = .table table ∧ (table.map Prod.fst).Nodup ∧
        ∀ e ∈ table, e.2.Writable room) ∨
      ∃ tables, v = .array (tables.map .table) ∧ tables ≠ [] ∧
        ∀ table ∈ tables, (table.map Prod.fst).Nodup ∧ ∀ e ∈ table, e.2.Writable room

theorem Value.writable_of_isLine (room : Nat) {v : Value} (hplain : v.isSection = false)
    (h : v.IsLine) : v.Writable room := by
  cases room with
  | zero => exact ⟨hplain, h⟩
  | succ room => exact .inl ⟨hplain, h⟩

theorem Value.writable_string (room : Nat) (s : String) : (Value.string s).Writable room :=
  writable_of_isLine room rfl trivial

theorem isLine_strings (texts : List String) : (Value.strings texts).IsLine := by
  intro v hv
  obtain ⟨text, -, rfl⟩ := List.mem_map.1 hv
  trivial

theorem Value.writable_strings (room : Nat) (texts : List String) :
    (Value.strings texts).Writable room :=
  writable_of_isLine room (isSection_strings texts) (isLine_strings texts)

theorem Value.writable_table {room : Nat} {table : List (String × Value)}
    (hnodup : (table.map Prod.fst).Nodup) (h : ∀ e ∈ table, e.2.Writable room) :
    (Value.table table).Writable (room + 1) :=
  .inr (.inl ⟨table, rfl, hnodup, h⟩)

theorem Value.Writable.isLine {room : Nat} {v : Value} (h : v.Writable room)
    (hplain : v.isSection = false) : v.IsLine := by
  cases room with
  | zero => exact h.2
  | succ room =>
    rcases h with h | ⟨table, rfl, -⟩ | ⟨tables, rfl, hne, -⟩
    · exact h.2
    · simp [Value.isSection] at hplain
    · simp [Value.isSection, Value.isTable, hne] at hplain

theorem Value.Writable.readsSection {room : Nat} {v : Value} (h : v.Writable room)
    (hsection : v.isSection = true) : ReadsSection room v := by
  induction room generalizing v with
  | zero => simp [h.1] at hsection
  | succ room ih =>
    have hentries : ∀ table : List (String × Value), (table.map Prod.fst).Nodup →
        (∀ e ∈ table, e.2.Writable room) → ReadsEntries room table := fun table hnodup hall =>
      ⟨hnodup, fun e he => (hall e he).isLine, fun e he => ih (hall e he)⟩
    rcases h with h | ⟨table, rfl, hnodup, hall⟩ | ⟨tables, rfl, hne, hall⟩
    · simp [h.1] at hsection
    · exact readsSection_table (hentries table hnodup hall)
    · exact readsSection_tables hne fun table htable =>
        hentries table (hall table htable).1 (hall table htable).2

/-- A line does not begin with a byte order mark. -/
theorem lines?_mark (room : Nat) (d : Draft) (cs : List Char) :
    lines? room d ('\ufeff' :: cs) = none := by
  cases room with
  | zero => rfl
  | succ room =>
    have hskip : skipTrivia false ('\ufeff' :: cs) = '\ufeff' :: cs :=
      skipTrivia_of_start cs (by decide) (by decide) (by decide) (by decide)
    rw [lines?, hskip]
    rfl

theorem dropMark_of_lines? {room : Nat} {d d' : Draft} {cs : List Char}
    (h : lines? room d cs = some d') : dropMark cs = cs := by
  unfold dropMark
  split
  · rw [lines?_mark] at h
    simp at h
  · rfl

/-- A text that takes the empty draft to another one is read whole, with room to spare. -/
theorem lines?_of_takes {cs : List Char} {d : Draft} (h : Takes {} cs d) {room : Nat}
    (hroom : cs.length ≤ room + 1) : lines? (room + 1) {} cs = some d := by
  obtain ⟨n, hn, htakes⟩ := h
  obtain ⟨more, rfl⟩ : ∃ more, room = more + n := ⟨room - n, by omega⟩
  have hend := htakes (more + 1) []
  rw [List.append_nil, Nat.add_right_comm] at hend
  exact hend

/-- A document is what its lines leave behind. -/
theorem parse?_of_lines {text : String} {d : Draft} {nodes : Entries}
    (h : lines? (text.length + 1) {} text.toList = some d) (hholds : d.Holds [] nodes) :
    parse? text = some (finishEntries nodes) := by
  rw [Draft.Holds, plug] at hholds
  rw [parse?, dropMark_of_lines? h, h]
  simp only [Option.bind_eq_bind, Option.bind_some, hholds]

theorem parse?_of_takes {text : String} {d : Draft} {nodes : Entries}
    (h : Takes {} text.toList d) (hholds : d.Holds [] nodes) :
    parse? text = some (finishEntries nodes) :=
  parse?_of_lines (lines?_of_takes h (String.length_toList.trans_le (Nat.le_succ _))) hholds

/-- A document reads back as its table, with plain values before sub-tables. -/
theorem parse?_render {table : List (String × Value)} (hnodup : (table.map Prod.fst).Nodup)
    (h : ∀ e ∈ table, e.2.Writable nestingLimit) :
    parse? (render table) = some (arrange table) := by
  have hentries : ReadsEntries nestingLimit table :=
    ⟨hnodup, fun e he => (h e he).isLine, fun e he => (h e he).readsSection⟩
  have hroot : ∀ current, Draft.Holds { current } [] current := fun _ => rfl
  obtain ⟨d, nodes, htakes, hfinish, hholds⟩ :=
    @takes_table nestingLimit table hentries [] {} (by simp) (by simp) rfl hroot
  rw [show keysOf [] = [] from rfl] at htakes
  have hlines : lines? ((render table).length + 1) {} (render table).toList = some d := by
    unfold render
    dsimp only
    split
    · -- The empty line in front is dropped, and reading did not need it.
      rename_i rest heq
      have hread := lines?_of_takes htakes (by simp [heq] : _ ≤ rest.length + 1)
      rw [heq, lines?_newline] at hread
      rw [String.length_ofList, String.toList_ofList]
      exact hread
    · exact lines?_of_takes htakes (String.length_toList.trans_le (Nat.le_succ _))
  rw [parse?_of_lines hlines hholds, hfinish]
  rfl

end DocSite.Toml
