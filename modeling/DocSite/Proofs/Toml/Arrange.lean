import DocSite.Toml.Printer

/-!
# The order in which documents are written

  A document writes the plain values of a table before its sub-tables, which
  follow under headers. Reading it gives the table in that order: the same keys
  with the same values, plain ones first, at every level that has headers. A table
  in that order is written with the same text, so that it is the order in which
  reading and writing come to rest.
-/

namespace DocSite.Toml

/-- The entries that are written as lines of their table. -/
def plainEntries (entries : List (String × Value)) : List (String × Value) :=
  entries.filter fun (_, v) => !v.isSection

mutual

/-- A value with plain values before sub-tables, wherever it is written under headers. -/
def Value.arranged : Value → Value
  | .table entries => .table (plainEntries entries ++ arrangedSections entries)
  | .array items =>
    if (Value.array items).isSection then .array (arrangedItems items) else .array items
  | v => v

/-- The entries that are written under headers, each of them arranged. -/
def arrangedSections : List (String × Value) → List (String × Value)
  | [] => []
  | (key, v) :: rest =>
    if v.isSection then (key, v.arranged) :: arrangedSections rest else arrangedSections rest

/-- The items of an array of tables, each of them arranged. -/
def arrangedItems : List Value → List Value
  | [] => []
  | v :: rest => v.arranged :: arrangedItems rest

end

/-- The entries of a document in the order in which it writes them. -/
def arrange (entries : List (String × Value)) : List (String × Value) :=
  plainEntries entries ++ arrangedSections entries

/-! ## Values without sub-tables -/

theorem isSection_strings (texts : List String) : (Value.strings texts).isSection = false := by
  cases texts with
  | nil => rfl
  | cons text rest => simp [Value.strings, Value.isSection, Value.isTable]

/-- A table of plain values is written in its own order. -/
theorem arranged_of_plain {entries : List (String × Value)}
    (h : ∀ e ∈ entries, e.2.isSection = false) :
    (Value.table entries).arranged = .table entries := by
  have hplain : plainEntries entries = entries :=
    List.filter_eq_self.2 fun e he => by simp [h e he]
  have hsections : arrangedSections entries = [] := by
    clear hplain
    induction entries with
    | nil => simp [arrangedSections]
    | cons e rest ih =>
      have he := h e (by simp)
      have hrest := ih fun x hx => h x (by simp [hx])
      obtain ⟨key, v⟩ := e
      simp [arrangedSections, he, hrest]
  rw [Value.arranged, hplain, hsections, List.append_nil]

/-- A table with a single sub-table holds just that, arranged. -/
theorem arranged_single {key : String} {v : Value} (h : v.isSection = true) :
    (Value.table [(key, v)]).arranged = .table [(key, v.arranged)] := by
  simp [Value.arranged, plainEntries, arrangedSections, h]

/-! ## The text of an arranged document -/

@[simp] theorem Value.isTable_arranged (v : Value) : v.arranged.isTable = v.isTable := by
  cases v with
  | array items =>
    rw [Value.arranged]
    split <;> rfl
  | _ => simp [Value.arranged, Value.isTable]

theorem all_isTable_arrangedItems (items : List Value) :
    (arrangedItems items).all Value.isTable = items.all Value.isTable := by
  induction items with
  | nil => rfl
  | cons v rest ih => rw [arrangedItems, List.all_cons, List.all_cons, ih, Value.isTable_arranged]

/-- Arranging makes no section of a plain value, and no plain value of a section. -/
@[simp] theorem Value.isSection_arranged (v : Value) : v.arranged.isSection = v.isSection := by
  cases v with
  | array items =>
    rw [Value.arranged]
    split
    · have hempty : (arrangedItems items).isEmpty = items.isEmpty := by cases items <;> rfl
      simp only [Value.isSection, hempty, all_isTable_arrangedItems]
    · rfl
  | _ => simp [Value.arranged, Value.isSection]

theorem isSection_of_mem_arrangedSections {entries : List (String × Value)} :
    ∀ e ∈ arrangedSections entries, e.2.isSection = true := by
  induction entries with
  | nil => simp [arrangedSections]
  | cons e rest ih =>
    obtain ⟨key, v⟩ := e
    intro e he
    rw [arrangedSections] at he
    split at he
    · rename_i hv
      rcases List.mem_cons.1 he with he | he
      · rw [he, Value.isSection_arranged, hv]
      · exact ih e he
    · exact ih e he

/-- The plain values of a table stay the same in the same order. -/
theorem plainEntries_arrange (entries : List (String × Value)) :
    plainEntries (arrange entries) = plainEntries entries := by
  have hsections : plainEntries (arrangedSections entries) = [] := by
    apply List.filter_eq_nil_iff.2
    intro e he
    simp [isSection_of_mem_arrangedSections e he]
  have hplain : plainEntries (plainEntries entries) = plainEntries entries := by
    simp [plainEntries, List.filter_filter]
  calc plainEntries (arrange entries)
      = plainEntries (plainEntries entries) ++ plainEntries (arrangedSections entries) :=
        List.filter_append _ _
    _ = plainEntries entries := by rw [hplain, hsections, List.append_nil]

theorem plainLines_arrange (entries : List (String × Value)) :
    plainLines (arrange entries) = plainLines entries := by
  have h := plainEntries_arrange entries
  unfold plainEntries at h
  rw [plainLines, plainLines, h]

theorem any_plain_iff (entries : List (String × Value)) :
    (entries.any fun (_, v) => !v.isSection) = !(plainEntries entries).isEmpty := by
  induction entries with
  | nil => rfl
  | cons e rest ih =>
    by_cases he : e.2.isSection = true
    · simpa [plainEntries, he] using ih
    · simp [plainEntries, he]

theorem isEmpty_arrange (entries : List (String × Value)) :
    (arrange entries).isEmpty = entries.isEmpty := by
  cases entries with
  | nil => rfl
  | cons e rest =>
    obtain ⟨key, v⟩ := e
    by_cases hv : v.isSection = true
    · simp [arrange, arrangedSections, hv]
    · simp [arrange, plainEntries, hv]

/-- A table has a header in both orders or in none. -/
theorem hasHeader_arrange (entries : List (String × Value)) :
    hasHeader (arrange entries) = hasHeader entries := by
  rw [hasHeader, hasHeader, any_plain_iff, any_plain_iff, plainEntries_arrange, isEmpty_arrange]

theorem sections_append (path : List String) (front back : List (String × Value)) :
    sections path (front ++ back) = sections path front ++ sections path back := by
  induction front with
  | nil => simp [sections]
  | cons e rest ih =>
    obtain ⟨key, v⟩ := e
    rw [List.cons_append, sections, sections, ih, String.append_assoc]

theorem section?_of_not_isSection {path : List String} {v : Value}
    (h : v.isSection = false) : section? path v = "" := by
  cases v with
  | array items =>
    rw [section?, if_neg (by simp [h])]
  | table entries => simp [Value.isSection] at h
  | string s => rfl
  | integer n => rfl
  | float x => rfl
  | boolean b => rfl
  | datetime text => rfl

/-- Plain values have no lines under headers of their own. -/
theorem sections_of_plain (path : List String) {entries : List (String × Value)}
    (h : ∀ e ∈ entries, e.2.isSection = false) : sections path entries = "" := by
  induction entries with
  | nil => simp [sections]
  | cons e rest ih =>
    obtain ⟨key, v⟩ := e
    have hv : v.isSection = false := h (key, v) (by simp)
    have hrest := ih fun e he => h e (by simp [he])
    rw [sections, section?_of_not_isSection hv, hrest]
    rfl

theorem sections_arrange (path : List String) (entries : List (String × Value)) :
    sections path (arrange entries) = sections path (arrangedSections entries) := by
  have hplain : sections path (plainEntries entries) = "" := by
    apply sections_of_plain
    intro e he
    have hsection := (List.mem_filter.1 he).2
    simpa using hsection
  rw [arrange, sections_append, hplain, String.empty_append]

/-- An item that is no table has no lines in an array of tables. -/
theorem arraySections_of_not_isTable (path : List String) {v : Value} (h : v.isTable = false)
    (rest : List Value) : arraySections path (v :: rest) = arraySections path rest := by
  cases v with
  | table entries => simp [Value.isTable] at h
  | _ => simp [arraySections]

-- The three functions of the printer call each other, and arranging does so in the same places.
mutual

theorem section?_arranged (path : List String)
    (v : Value) : section? path v.arranged = section? path v := by
  cases v with
  | table entries =>
    -- The lines, the header and the sections of a table are left alone by the arrangement.
    have hlines := plainLines_arrange entries
    have hheader := hasHeader_arrange entries
    have hsections := (sections_arrange path entries).trans (sections_arranged path entries)
    rw [Value.arranged, section?, section?]
    rw [arrange] at hlines hheader hsections
    rw [hlines, hheader, hsections]
  | array items =>
    rw [Value.arranged]
    split
    · -- Arranging its items does not change that the array is one of tables.
      rename_i h
      have harranged : (Value.array (arrangedItems items)).isSection = true := by
        have hsame := Value.isSection_arranged (.array items)
        rwa [Value.arranged, if_pos h, h] at hsame
      rw [section?, section?, if_pos harranged, if_pos h, arraySections_arranged path items]
    · rfl
  | _ => simp [Value.arranged]

theorem sections_arranged (path : List String) (entries : List (String × Value)) :
    sections path (arrangedSections entries) = sections path entries := by
  match entries with
  | [] => simp [arrangedSections]
  | (key, v) :: rest =>
    rw [arrangedSections]
    split
    · rw [sections, sections, section?_arranged (path ++ [key]) v, sections_arranged path rest]
    · rename_i hv
      have hplain : v.isSection = false := Bool.eq_false_iff.2 hv
      rw [sections, section?_of_not_isSection hplain, sections_arranged path rest, String.empty_append]

theorem arraySections_arranged (path : List String) (items : List Value) :
    arraySections path (arrangedItems items) = arraySections path items := by
  match items with
  | [] => simp [arrangedItems]
  | v :: rest =>
    have hrest := arraySections_arranged path rest
    -- Only a table among the items writes something.
    by_cases hv : v.isTable = true
    · cases v with
      | table entries =>
        have hlines := plainLines_arrange entries
        have hsections := (sections_arrange path entries).trans (sections_arranged path entries)
        rw [arrange] at hlines hsections
        rw [arrangedItems, Value.arranged, arraySections, arraySections, hlines, hsections, hrest]
      | _ => simp [Value.isTable] at hv
    · have hplain : v.isTable = false := Bool.eq_false_iff.2 hv
      have harranged : v.arranged.isTable = false := by rw [Value.isTable_arranged, hplain]
      rw [arrangedItems, arraySections_of_not_isTable path harranged,
        arraySections_of_not_isTable path hplain, hrest]

end

/-- A document has the same text in the order in which it is written. -/
theorem render_arrange (entries : List (String × Value)) :
    render (arrange entries) = render entries := by
  have hsections := (sections_arrange [] entries).trans (sections_arranged [] entries)
  rw [render, render, plainLines_arrange, hsections]

end DocSite.Toml
