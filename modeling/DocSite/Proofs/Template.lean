import DocSite.Proofs.Toml.Document
import DocSite.Starter.Files

/-!
# Templates read as documents

  A template is read like any other document: its comments say nothing, a header
  opens the table of its section, and the line of a key adds what the key starts
  as. So what a template says is what its sections say, one below the other, and
  the configuration of a new site can be read from its sections.
-/

namespace DocSite.Starter

open DocSite.Text DocSite.Toml DocSite.Toml.Scanner

/-! ## Comments -/

/-- A text that can stand in comments: one without control characters, but perhaps with several
lines. -/
def IsComment (doc : String) : Prop := ∀ c ∈ doc.toList, c = '\n' ∨ isPlain c = true

theorem takes_commentLine (d : Draft) {text : String} (h : ∀ c ∈ text.toList, isPlain c = true) :
    Takes d ("# " ++ text ++ "\n").toList d := by
  have hblank : ∀ c ∈ ' ' :: text.toList, isPlain c = true :=
    List.forall_mem_cons.2 ⟨by decide, h⟩
  simpa using takes_comment d hblank

/-- Comments say nothing. -/
theorem takes_comments (d : Draft) {lines : List String}
    (h : ∀ line ∈ lines, ∀ c ∈ line.toList, isPlain c = true) :
    Takes d (String.join (lines.map fun line => "# " ++ line ++ "\n")).toList d := by
  induction lines with
  | nil => exact Takes.refl d
  | cons line rest ih =>
    obtain ⟨hline, hrest⟩ := List.forall_mem_cons.1 h
    rw [List.map_cons, String.join_cons]
    exact (takes_commentLine d hline).append (ih hrest)

/-- A line of a text that can stand in comments has no control characters. -/
theorem IsComment.line {doc line : String} (h : IsComment doc) (hline : line ∈ splitText '\n' doc) :
    ∀ c ∈ (trim line).toList, isPlain c = true := by
  intro c hc
  have hfeed := not_mem_of_mem_splitText hline
  obtain ⟨piece, hpiece, rfl⟩ := List.mem_map.1 hline
  rw [String.toList_ofList] at hfeed
  obtain ⟨front, back, -, -, heq⟩ := exists_trimBoth piece
  have hmem : c ∈ piece := by
    rw [toList_trim, String.toList_ofList] at hc
    rw [heq]
    simp [hc]
  refine (h c (mem_of_mem_splitOn hpiece hmem)).resolve_left ?_
  rintro rfl
  exact hfeed hmem

theorem takes_commentLines (d : Draft) {doc : String} (h : IsComment doc) :
    Takes d (commentLines doc).toList d := by
  unfold commentLines
  split
  · exact Takes.refl d
  · have hlines : ∀ line ∈ (splitText '\n' doc).map trim, ∀ c ∈ line.toList, isPlain c = true :=
      List.forall_mem_map.2 fun line hline => h.line hline
    have htakes := takes_comments d hlines
    rw [List.map_map] at htakes
    exact htakes

/-! ## Keys -/

/-- The text that a template shows as the value of a key, if it shows one. -/
def KeyValue.shown? : KeyValue → Option String
  | .initial v => some v.text
  | .example text => some text
  | .unset => none

/-- What the lines of keys add to their table. -/
inductive KeyLines : List Key → Entries → Prop
  | nil : KeyLines [] []
  /-- A key that is commented out adds nothing. -/
  | unset {key : Key} {keys : List Key} {entries : Entries} (hdoc : IsComment key.doc)
      (hvalue : key.value = .unset) (hname : ∀ c ∈ key.name.toList, isPlain c = true)
      (hkeys : KeyLines keys entries) : KeyLines (key :: keys) entries
  | shown {key : Key} {keys : List Key} {entries : Entries} {text : String} {v : Value}
      (hdoc : IsComment key.doc) (hvalue : key.value.shown? = some text)
      (hname : keyText key.name = key.name) (hread : ReadsLine text v)
      (hkeys : KeyLines keys entries) :
      KeyLines (key :: keys) ((key.name, .value v) :: entries)

/-- A key that is commented out is a comment. -/
theorem takes_unset (d : Draft) {key : Key} (hvalue : key.value = .unset)
    (hname : ∀ c ∈ key.name.toList, isPlain c = true) : Takes d key.line.toList d := by
  have hplain : ∀ c ∈ (key.name ++ " = \"\"").toList, isPlain c = true := by
    intro c hc
    rw [String.toList_append, List.mem_append] at hc
    rcases hc with hc | hc
    · exact hname c hc
    · have hall : (" = \"\"".toList).all isPlain = true := by decide
      exact List.all_eq_true.1 hall c hc
  have hline : key.line = "# " ++ (key.name ++ " = \"\"") ++ "\n" := by
    simp [Key.line, hvalue, String.append_assoc]
  rw [hline]
  exact takes_commentLine d hplain

theorem Key.line_of_shown {key : Key} {text : String} (hvalue : key.value.shown? = some text)
    (hname : keyText key.name = key.name) : key.line = lineOf key.name text := by
  rw [lineOf, hname, Key.line]
  cases hshown : key.value with
  | initial v =>
    rw [hshown] at hvalue
    rw [← Option.some.inj hvalue]
  | «example» shown =>
    rw [hshown] at hvalue
    rw [← Option.some.inj hvalue]
  | unset =>
    rw [hshown] at hvalue
    simp [KeyValue.shown?] at hvalue

/-- The lines of keys fill the open table. -/
theorem takes_keyLines {keys : List Key} {entries : Entries} (h : KeyLines keys entries)
    (d : Draft) (hnodup : (d.current.map Prod.fst ++ entries.map Prod.fst).Nodup) :
    Takes d (keyLines keys).toList { d with current := d.current ++ entries } := by
  induction h generalizing d with
  | nil => simpa [keyLines] using Takes.refl d
  | @unset key keys entries hdoc hvalue hname _ ih =>
    have htext : keyLines (key :: keys) = commentLines key.doc ++ key.line ++ keyLines keys := by
      simp [keyLines, String.join_cons]
    rw [htext]
    exact ((takes_commentLines d hdoc).append (takes_unset d hvalue hname)).append (ih d hnodup)
  | @shown key keys entries text v hdoc hvalue hname hread _ ih =>
    have htext : keyLines (key :: keys) =
        commentLines key.doc ++ lineOf key.name text ++ keyLines keys := by
      simp [keyLines, String.join_cons, Key.line_of_shown hvalue hname]
    have hkey : key.name ∉ d.current.map Prod.fst := fun hmem =>
      (List.nodup_append.1 hnodup).2.2 key.name hmem key.name (by simp) rfl
    have hline := takes_line hread hkey
    have hrest := ih { d with current := d.current ++ [(key.name, .value v)] }
      (by simpa using hnodup)
    rw [htext]
    simpa using ((takes_commentLines d hdoc).append hline).append hrest

/-! ## Sections -/

/-- What sections say below a path: the tables that they open, one after the other. -/
inductive PartsSay : (path : List String) → List Section → Entries → Prop
  | nil {path : List String} : PartsSay path [] []
  | cons {path : List String} {name key doc : String} {keys : List Key}
      {parts rest : List Section} {lines tables more : Entries}
      (hname : name = headerPath (path ++ [key])) (hlimit : path.length < nestingLimit)
      (hdoc : IsComment doc) (hlines : KeyLines keys lines)
      (htables : PartsSay (path ++ [key]) parts tables)
      (hnodup : ((lines ++ tables).map Prod.fst).Nodup) (hrest : PartsSay path rest more) :
      PartsSay path (.mk name doc keys parts :: rest)
        ((key, .table false false (lines ++ tables)) :: more)

/-- A header opens its table behind what the frames hold. -/
theorem takes_sectionHeader {frames : List Frame} {entries : Entries} {key : String} {d : Draft}
    (hfresh : ∀ frame ∈ frames, frame.Fresh) (hkey : key ∉ entries.map Prod.fst)
    (hlimit : (keysOf frames).length < nestingLimit) (hholds : d.Holds frames entries) :
    Takes d (header (headerPath (keysOf frames ++ [key]))).toList
      { root := plug frames entries, path := keysOf frames ++ [key] } := by
  have hne : (headerPath (keysOf frames ++ [key])).isEmpty = false := by
    obtain ⟨c, tail, htext, -⟩ := head_headerPath (List.concat_ne_nil key (keysOf frames))
    rw [String.isEmpty_eq_false_iff]
    intro hempty
    simp [hempty] at htext
  rw [header, hne, if_neg Bool.false_ne_true]
  exact takes_header (by simp) (by simpa using hlimit)
    (Draft.openTable_eq (hholds.stands hfresh) hkey)

/-- The templates of sections add their tables to what the frames hold. -/
theorem takes_partsText {path : List String} {parts : List Section} {tables : Entries}
    (h : PartsSay path parts tables) {frames : List Frame} (hpath : path = keysOf frames)
    (hfresh : ∀ frame ∈ frames, frame.Fresh) {entries : Entries} {d : Draft}
    (hnodup : ((entries ++ tables).map Prod.fst).Nodup) (hholds : d.Holds frames entries) :
    ∃ d', Takes d (partsText parts).toList d' ∧ d'.Holds frames (entries ++ tables) := by
  induction h generalizing frames entries d with
  | nil => exact ⟨d, Takes.refl d, by simpa using hholds⟩
  | @cons path name key doc keys parts rest lines tables more hname hlimit hdoc hlines _ hinner
      _ ihtables ihrest =>
    subst hpath hname
    have hkey : key ∉ entries.map Prod.fst := fun hmem => by
      rw [List.map_append] at hnodup
      exact (List.nodup_append.1 hnodup).2.2 key hmem key (by simp) rfl
    have hframe : (Frame.table entries key false).Fresh := hkey
    -- Header and keys of the section.
    have hopen := takes_sectionHeader hfresh hkey hlimit hholds
    have hfill := takes_keyLines hlines
      { root := plug frames entries, path := keysOf frames ++ [key] }
      (by simpa using (List.nodup_append.1 (List.map_append ▸ hinner)).1)
    -- The sections below are added to the table of this one.
    have hpath := (keysOf_concat frames (.table entries key false)).symm
    obtain ⟨d₁, hbelow, hholds₁⟩ := ihtables hpath (Frame.fresh_concat hfresh hframe) hinner
      (Draft.holds_of_openTable hfresh lines)
    rw [Draft.Holds, plug_concat] at hholds₁
    have hplaced : d₁.Holds frames (entries ++ [(key, .table false false (lines ++ tables))]) :=
      hholds₁
    -- The sections behind it find the table in its place.
    obtain ⟨d₂, hbehind, hholds₂⟩ := ihrest rfl hfresh (by simpa using hnodup) hplaced
    refine ⟨d₂, ?_, by simpa using hholds₂⟩
    have hsection := ((takes_commentLines d hdoc).append hopen).append hfill
    exact ((takes_newline d).append (hsection.append hbelow)).append hbehind

/-- The template of a record adds its keys and its sections to the empty document. -/
theorem takes_record {doc : String} {keys : List Key} {parts : List Section}
    {lines tables : Entries} (hdoc : IsComment doc) (hlines : KeyLines keys lines)
    (htables : PartsSay [] parts tables) (hnodup : ((lines ++ tables).map Prod.fst).Nodup) :
    ∃ d, Takes {} (Section.mk "" doc keys parts).withHeader.toList d ∧
      d.Holds [] (lines ++ tables) := by
  have hfill := takes_keyLines hlines {}
    (by simpa using (List.nodup_append.1 (List.map_append ▸ hnodup)).1)
  have hroot : Draft.Holds { current := lines } [] lines := rfl
  obtain ⟨d, hbelow, hholds⟩ := takes_partsText htables rfl (by simp) hnodup hroot
  refine ⟨d, ?_, hholds⟩
  have hheader : Takes {} (header "").toList {} := Takes.refl {}
  exact (((takes_commentLines {} hdoc).append hheader).append hfill).append hbelow

/-! ## Items -/

/-- The text of an item of an array of tables: its header and its keys. -/
def itemText (key : String) (keys : List Key) : String :=
  "[[" ++ headerPath [key] ++ "]]\n" ++ keyLines keys

/-- An item is added to its array of tables. -/
theorem takes_item {key : String} {keys : List Key} {entries lines : Entries} {done : List Entries}
    {d : Draft} (hstands : (done = [] ∧ d.Stands [] entries) ∨
      d.Stands [] (entries ++ [(key, .tables done)]))
    (hkey : key ∉ entries.map Prod.fst) (hlines : KeyLines keys lines)
    (hnodup : (lines.map Prod.fst).Nodup) :
    ∃ d', Takes d (itemText key keys).toList d' ∧
      d'.Holds [] (entries ++ [(key, .tables (done ++ [lines]))]) := by
  have hheader := takes_arrayHeader (by simp) (by simp [keysOf, nestingLimit])
    (Draft.openArrayTable_eq hstands hkey)
  have hfill := takes_keyLines hlines
    { root := plug [] (entries ++ [(key, .tables done)]), path := keysOf [] ++ [key]
      inArray := true } (by simpa using hnodup)
  have hholds := Draft.holds_of_openArrayTable (by simp : ∀ frame ∈ [], Frame.Fresh frame) hkey
    done lines
  rw [Draft.Holds, plug_concat] at hholds
  refine ⟨_, ?_, hholds⟩
  exact hheader.append hfill

/-- Items with blank lines between them are added one after the other. -/
theorem takes_items {key : String} {items : List (List Key)} {tables : List Entries}
    (h : List.Forall₂ KeyLines items tables) (hne : items ≠ []) {entries : Entries}
    (hkey : key ∉ entries.map Prod.fst) (hnodup : ∀ t ∈ tables, (t.map Prod.fst).Nodup)
    {done : List Entries} {d : Draft} (hstands : (done = [] ∧ d.Stands [] entries) ∨
      d.Stands [] (entries ++ [(key, .tables done)])) :
    ∃ d', Takes d (joinText "\n" (items.map (itemText key))).toList d' ∧
      d'.Holds [] (entries ++ [(key, .tables (done ++ tables))]) := by
  induction h generalizing done d with
  | nil => exact absurd rfl hne
  | @cons keys lines items tables hlines hrest ih =>
    obtain ⟨hfirst, hmore⟩ := List.forall_mem_cons.1 hnodup
    obtain ⟨d₁, htakes, hholds⟩ := takes_item hstands hkey hlines hfirst
    cases hrest with
    | nil => exact ⟨d₁, htakes, hholds⟩
    | @cons next nextLines items tables =>
      obtain ⟨d₂, hbehind, hend⟩ := ih (by simp) hmore (.inr (hholds.stands (by simp)))
      refine ⟨d₂, ?_, by simpa using hend⟩
      exact (htakes.append (takes_newline d₁)).append hbehind

/-! ## The configuration of a new site -/

/-- Checks on the characters of a text can be made on the list of them. -/
theorem forall_chars {text : String} {cs : List Char} {p : Char → Bool} (htext : text.toList = cs)
    (h : cs.all p = true) : ∀ c ∈ text.toList, p c = true := by
  rw [htext]
  exact List.all_eq_true.1 h

theorem IsComment.of_chars {doc : String} {cs : List Char} (hdoc : doc.toList = cs)
    (h : (cs.all fun c => c == '\n' || isPlain c) = true) : IsComment doc := by
  intro c hc
  simpa using forall_chars hdoc h c hc

theorem keyText_eq_self {key : String} {cs : List Char} (hkey : key.toList = cs)
    (h : (!cs.isEmpty && cs.all isNameChar) = true) : keyText key = key := by
  rw [keyText, hkey]
  exact if_pos h

theorem readsLine_of_chars {text : String} {cs : List Char} {v : Value} (htext : text.toList = cs)
    (h : ∀ rest, value? nestingLimit (skipSpaces (cs ++ '\n' :: rest)) = some (v, '\n' :: rest)) :
    ReadsLine text v := by
  rw [ReadsLine, htext]
  exact h

theorem KeyLines.initial {name doc : String} {v : Value} {keys : List Key} {entries : Entries}
    (hdoc : IsComment doc) (hname : keyText name = name) (hvalue : v.IsLine)
    (hkeys : KeyLines keys entries) :
    KeyLines ({ name, doc, value := .initial v } :: keys) ((name, .value v) :: entries) :=
  .shown hdoc rfl hname hvalue.readsLine hkeys

/-- The entries that a new site starts with, before its plugins. -/
def siteEntries : Entries :=
  [("site", .value (.string "https://example.github.io")), ("base", .value (.string "/")),
    ("output", .value (.string "static")),
    ("server", .table false false
      [("port", .value (.integer 4321)), ("host", .value (.string "localhost"))]),
    ("build", .table false false
      [("out_dir", .value (.string "dist")), ("assets", .value (.string "_astro"))]),
    ("markdown", .table false false
      [("shiki", .table false false
        [("theme", .value (.string "github-dark")), ("langs", .value (.array [])),
          ("wrap", .value (.boolean false))])]),
    ("vite", .table false false
      [("define", .value (.table [("__DATE__", .table [("builtin", .string "build-date")])]))])]

/-- The plugins that a new site starts with. -/
def pluginItems : List Entries :=
  [[("name", .value (.string "tailwind")), ("apply_base_styles", .value (.boolean true)),
      ("config_file", .value (.string "theme.toml"))],
    [("name", .value (.string "react"))], [("name", .value (.string "mdx"))]]

theorem readsLine_address :
    ReadsLine "\"https://example.github.io\"" (.string "https://example.github.io") :=
  readsLine_of_chars String.toList_ofList fun _ => rfl

theorem readsLine_define : ReadsLine "\x7b __DATE__ = \x7b builtin = \"build-date\" \x7d \x7d"
    (.table [("__DATE__", .table [("builtin", .string "build-date")])]) :=
  readsLine_of_chars String.toList_ofList fun _ => rfl

/-- The keys of a new site, in front of its sections. -/
theorem keyLines_site {keys : List Key} {parts : List Section} {doc : String}
    (h : site = .mk "" doc keys parts) : IsComment doc ∧ KeyLines keys (siteEntries.take 3) := by
  simp only [site, Section.mk.injEq, true_and] at h
  obtain ⟨rfl, rfl, -⟩ := h
  refine ⟨?_, .shown ?_ rfl ?_ readsLine_address (.initial ?_ ?_ ?_ (.initial ?_ ?_ ?_ .nil))⟩
  all_goals first
    | exact IsComment.of_chars String.toList_ofList (by decide +kernel)
    | exact keyText_eq_self String.toList_ofList (by decide)
    | trivial

theorem partsSay_site :
    PartsSay [] [server, buildOutput, markdown, bundler] (siteEntries.drop 3) := by
  simp only [server, buildOutput, markdown, highlighting, bundler, siteEntries]
  refine
    .cons (by decide +kernel) (by decide) ?_
      (.initial ?_ ?_ ?_ (.initial ?_ ?_ ?_ .nil)) .nil (by decide) <|
    .cons (by decide +kernel) (by decide) ?_
      (.initial ?_ ?_ ?_ (.initial ?_ ?_ ?_ .nil)) .nil (by decide) <|
    .cons (by decide +kernel) (by decide) ?_ .nil
      (.cons (by decide +kernel) (by decide) ?_
        (.initial ?_ ?_ ?_ (.initial ?_ ?_ ?_ (.initial ?_ ?_ ?_ .nil))) .nil (by decide) .nil)
      (by decide) <|
    .cons (by decide +kernel) (by decide) ?_
      (.shown ?_ rfl ?_ readsLine_define .nil) .nil (by decide) .nil
  all_goals first
    | exact IsComment.of_chars String.toList_ofList (by decide +kernel)
    | exact keyText_eq_self String.toList_ofList (by decide)
    | exact isLine_strings []
    | trivial

/-- The keys of the plugins that a new site starts with. -/
def pluginKeys : List (List Key) :=
  [[{ name := "name", value := .initial (.string "tailwind") },
      { name := "apply_base_styles", value := .initial (.boolean true) },
      { name := "config_file", value := .initial (.string "theme.toml") }],
    [{ name := "name", value := .initial (.string "react") }],
    [{ name := "name", value := .initial (.string "mdx") }]]

theorem keyLines_plugins : List.Forall₂ KeyLines pluginKeys pluginItems := by
  refine .cons (.initial ?_ ?_ ?_ (.initial ?_ ?_ ?_ (.initial ?_ ?_ ?_ .nil)))
    (.cons (.initial ?_ ?_ ?_ .nil) (.cons (.initial ?_ ?_ ?_ .nil) .nil))
  all_goals first
    | exact IsComment.of_chars String.toList_ofList (by decide +kernel)
    | exact keyText_eq_self String.toList_ofList (by decide)
    | trivial

/-- The lines of the comment above the plugins. -/
def pluginComments : List String :=
  ["Enabled integrations, in processing order.",
    "Available: tailwind, react, mdx, sitemap (needs `site`), node (needs output = \"server\" or \"hybrid\")."]

theorem integrations_eq : integrations =
    "\n" ++ (String.join (pluginComments.map fun line => "# " ++ line ++ "\n") ++
      joinText "\n" (pluginKeys.map (itemText "integrations"))) := by
  decide +kernel

theorem takes_integrations {d : Draft} {entries : Entries} (hholds : d.Holds [] entries)
    (hkey : "integrations" ∉ entries.map Prod.fst) :
    ∃ d', Takes d integrations.toList d' ∧
      d'.Holds [] (entries ++ [("integrations", .tables pluginItems)]) := by
  have hplain : ∀ line ∈ pluginComments, ∀ c ∈ line.toList, isPlain c = true := by
    simp only [pluginComments, List.forall_mem_cons]
    exact ⟨forall_chars String.toList_ofList (by decide +kernel),
      forall_chars String.toList_ofList (by decide +kernel), by simp⟩
  obtain ⟨d', hitems, hend⟩ := takes_items keyLines_plugins (by decide) hkey (by decide)
    (.inl ⟨rfl, hholds.stands (by simp)⟩)
  refine ⟨d', ?_, hend⟩
  rw [integrations_eq]
  exact (takes_newline d).append ((takes_comments d hplain).append hitems)

/-- The first line of the configuration is a comment. -/
theorem configText_eq : configText =
    "# " ++ "metasite configuration file (v0.1.0)" ++ "\n" ++ "\n" ++ site.withHeader ++
      integrations := by
  have hversion : "# metasite configuration file (v" ++ version ++ ")\n\n" =
      "# " ++ "metasite configuration file (v0.1.0)" ++ "\n" ++ "\n" := by decide +kernel
  exact congrArg (fun text => text ++ site.withHeader ++ integrations) hversion

/-- The entries of the configuration of a new site. -/
def configEntries : List (String × Value) :=
  finishEntries (siteEntries ++ [("integrations", .tables pluginItems)])

/-- The configuration of a new site reads as its keys, its sections and its plugins. -/
theorem parse?_configText : Toml.parse? configText = some configEntries := by
  obtain ⟨hdoc, hlines⟩ := keyLines_site rfl
  obtain ⟨d, hsite, hholds⟩ := takes_record hdoc hlines partsSay_site (by decide)
  obtain ⟨d', hplugins, hend⟩ := takes_integrations hholds (by decide)
  have hplain : ∀ c ∈ "metasite configuration file (v0.1.0)".toList, isPlain c = true :=
    forall_chars String.toList_ofList (by decide +kernel)
  refine parse?_of_takes ?_ hend
  rw [configText_eq]
  exact (((takes_commentLine {} hplain).append (takes_newline {})).append hsite).append hplugins

/-- The configuration of a new site is accepted: it is read without unknown keys, nothing is
logged, and no check finds anything. -/
theorem parse_configText : ∃ reading, SiteConfig.parse configText = .ok reading ∧
    reading.unknownKeys = [] ∧ reading.log = "" ∧ reading.config.diagnostics.errors = [] ∧
    reading.config.diagnostics.warnings = [] := by
  have h : ((decodeDocument SiteConfig.decode configEntries).toOption.any fun decoded =>
      decoded.2.isEmpty && decoded.1.syncBase.2 == "" &&
        decoded.1.syncBase.1.diagnostics.errors.isEmpty &&
        decoded.1.syncBase.1.diagnostics.warnings.isEmpty) = true := by
    decide +kernel
  cases hdecode : decodeDocument SiteConfig.decode configEntries with
  | error e => simp [hdecode, Except.toOption] at h
  | ok decoded =>
    rw [SiteConfig.parse, parse?_configText]
    simpa [hdecode, Except.toOption, and_assoc] using h

end DocSite.Starter
