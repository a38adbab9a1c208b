import DocSite.Proofs.Site.RoundTrip
import DocSite.Proofs.Toml.Keys

/-!
# The keys of a site's document

  A key of a document is a key of the record, or it is listed as unknown, or a key on
  the way to it is. There are exceptions: a constant that is a table is read for its
  `builtin` alone, and other keys of that table are lost without a trace; and an array
  that stands for a record may have items for which there is no field. A choice may be
  written as a table with one key, which is then its name.
-/

namespace DocSite

open DocSite.Text DocSite.Toml

/-! ## The keys of the record -/

/-- The options of each plugin. -/
def Integration.optionFields : List (String × List (String × Shape)) :=
  [("tailwind", [("apply_base_styles", .plain), ("config_file", .plain), ("nesting", .plain)]),
    ("react", [("include", .plain), ("exclude", .plain)]),
    ("mdx", [("extend_markdown_config", .plain), ("gfm", .plain)]),
    ("sitemap", [("changefreq", .choice), ("priority", .plain)]),
    ("node", [("mode", .choice)])]

/-- The keys of a site's record: its fields and those of its sections, the name and the options of
each plugin, the names of constants, and the one key of a computed constant. -/
def SiteConfig.shape : Shape :=
  .record
    [("site", .plain), ("base", .plain), ("output", .choice),
      ("integrations", .list (.tagged "name" Integration.optionFields)),
      ("server", .record [("port", .plain), ("host", .plain)]),
      ("build", .record [("out_dir", .plain), ("assets", .plain)]),
      ("markdown", .record
        [("shiki", .record [("theme", .plain), ("langs", .plain), ("wrap", .plain)])]),
      ("vite", .record [("define", .names (.single "builtin"))])]

/-! ## Sections -/

theorem ServerHost.readsPlain : ReadsPlain decode := by
  apply readsPlain_of_leaf
  intro spot v
  cases v with
  | boolean b => cases b <;> exact .inr ⟨rfl, _, rfl⟩
  | string s => exact .inr ⟨rfl, _, rfl⟩
  | _ => exact .inl ⟨_, rfl⟩

theorem readsPlain_address {α : Type} (parse : String → Except AddressError α) :
    ReadsPlain (SiteConfig.decodeAddress parse) := by
  intro spot v st x st' h
  obtain ⟨s, mid, hs, h⟩ := run_bind_eq_ok h
  obtain ⟨hmid, hnone⟩ := readsPlain_string _ _ _ _ _ hs
  split at h
  · exact ⟨(run_pure_state h).trans hmid, hnone⟩
  · exact absurd h run_throw_ne_ok

section sections
variable {whole : Bool}

theorem Server.accounts :
    Accounts decode (.record [("port", .plain), ("host", .plain)]) false := by
  apply accounts_record
  · exact .cons ⟨rfl, accounts_field (readsPlain_port.accounts _)⟩
      (.cons ⟨rfl, accounts_field (ServerHost.readsPlain.accounts _)⟩ .nil)
  · exact .inr rfl

theorem BuildOutput.accounts :
    Accounts decode (.record [("out_dir", .plain), ("assets", .plain)]) false := by
  apply accounts_record
  · exact .cons ⟨rfl, accounts_field (readsPlain_path.accounts _)⟩
      (.cons ⟨rfl, accounts_field (readsPlain_string.accounts _)⟩ .nil)
  · exact .inr rfl

theorem Highlighting.accounts : Accounts decode (.record
    [("shiki", .record [("theme", .plain), ("langs", .plain), ("wrap", .plain)])]) false := by
  have hoptions : Accounts (decodeRecord record {})
      (.record [("theme", .plain), ("langs", .plain), ("wrap", .plain)]) false := by
    apply accounts_record
    · exact .cons ⟨rfl, accounts_field (readsPlain_string.accounts _)⟩
        (.cons ⟨rfl, accounts_field (readsPlain_string.list.accounts _)⟩
          (.cons ⟨rfl, accounts_field (readsPlain_bool.accounts _)⟩ .nil))
    · exact .inr rfl
  apply accounts_record
  · exact .cons ⟨rfl, accounts_field hoptions⟩ .nil
  · exact .inr rfl

/-- Of a constant that is a table only one key is read. -/
theorem Define.accounts : Accounts decode (.single "builtin") whole := by
  intro spot v st d st' _ h
  unfold decode at h
  split at h
  · -- A text has no keys.
    refine ⟨run_pure_state h ▸ List.prefix_rfl, ?_⟩
    intro path hpath
    exact absurd hpath (not_hasKey_of_isLeaf rfl path)
  · split at h
    · rename_i name hname
      obtain ⟨entries, hentries, hbuiltin⟩ := Option.bind_eq_some_iff.1 hname
      have hst : st' = st := by
        split at h
        · exact run_pure_state h
        · exact absurd h run_throw_ne_ok
      refine ⟨hst ▸ List.prefix_rfl, Spot.accounts_of_entries? hentries ?_⟩
      intro path hpath
      -- Only `builtin` is read, and nothing is listed in either case.
      cases hpath with
      | @key _ key v hlookup =>
        by_cases hkey : key = "builtin"
        · subst hkey
          exact .inl ⟨_, .single⟩
        · exact .inl ⟨_, .beside hkey⟩
      | @inKey _ key v path hlookup hbelow =>
        by_cases hkey : key = "builtin"
        · -- The value of `builtin` is a text.
          subst hkey
          obtain rfl : Value.string name = v := Option.some.inj (hbuiltin.symm.trans hlookup)
          exact absurd hbelow (not_hasKey_of_isLeaf rfl path)
        · exact .inl ⟨_, .beside hkey⟩
    · exact absurd h run_throw_ne_ok

theorem Defines.accounts :
    Accounts decode (.record [("define", .names (.single "builtin"))]) false := by
  apply accounts_record
  · exact .cons ⟨rfl, accounts_field (accounts_table Define.accounts)⟩ .nil
  · exact .inr rfl

end sections

/-! ## Plugins -/

namespace Integration

theorem accounts_tailwind : Accounts (decodeRecord tailwindRecord {})
    (.record [("apply_base_styles", .plain), ("config_file", .plain), ("nesting", .plain)]) true := by
  apply accounts_record
  · exact .cons ⟨rfl, accounts_field (readsPlain_bool.accounts _)⟩
      (.cons ⟨rfl, accounts_field (readsPlain_path.accounts _)⟩
        (.cons ⟨rfl, accounts_field (readsPlain_bool.accounts _)⟩ .nil))
  · exact .inl rfl

theorem accounts_react : Accounts (decodeRecord reactRecord {})
    (.record [("include", .plain), ("exclude", .plain)]) true := by
  apply accounts_record
  · exact .cons ⟨rfl, accounts_field (readsPlain_string.list.accounts _)⟩
      (.cons ⟨rfl, accounts_field (readsPlain_string.list.accounts _)⟩ .nil)
  · exact .inl rfl

theorem accounts_mdx : Accounts (decodeRecord mdxRecord {})
    (.record [("extend_markdown_config", .plain), ("gfm", .plain)]) true := by
  apply accounts_record
  · exact .cons ⟨rfl, accounts_field (readsPlain_bool.accounts _)⟩
      (.cons ⟨rfl, accounts_field (readsPlain_bool.accounts _)⟩ .nil)
  · exact .inl rfl

theorem accounts_sitemap : Accounts (decodeRecord sitemapRecord {})
    (.record [("changefreq", .choice), ("priority", .plain)]) true := by
  apply accounts_record
  · exact .cons ⟨rfl, accounts_field (accounts_wholeChoice _).optional⟩
      (.cons ⟨rfl, accounts_field (readsPlain_float.optional.accounts _)⟩ .nil)
  · exact .inl rfl

theorem accounts_node : Accounts decodeNode (.record [("mode", .choice)]) true := by
  have hmode : Accounts (decodeRecord nodeRecord none) (.record [("mode", .choice)]) true := by
    apply accounts_record
    · exact .cons ⟨rfl, accounts_field (accounts_wholeChoice _)⟩ .nil
    · exact .inl rfl
  apply hmode.bind
  intro mode st i st' h
  split at h
  · exact run_pure_state h
  · exact absurd h run_throw_ne_ok

/-- The reader of a plugin's options accounts for the options of that plugin. -/
theorem accounts_kinds : ∀ e ∈ kinds,
    ∃ fields, Table.lookup e.1 optionFields = some fields ∧ Accounts e.2 (.record fields) true := by
  have hmake : ∀ {α : Type} {item : Decoder α} {shape : Shape} (make : α → Integration),
      Accounts item shape true →
      Accounts (fun spot v => return make (← item spot v)) shape true := by
    intro α item shape make h
    apply h.bind
    intro x st y st' hrun
    exact run_pure_state hrun
  intro e he
  simp only [kinds, List.mem_cons, List.not_mem_nil, or_false] at he
  rcases he with rfl | rfl | rfl | rfl | rfl
  · exact ⟨_, by simp [optionFields, Table.lookup], hmake .tailwind accounts_tailwind⟩
  · exact ⟨_, by simp [optionFields, Table.lookup], hmake .react accounts_react⟩
  · exact ⟨_, by simp [optionFields, Table.lookup], hmake .mdx accounts_mdx⟩
  · exact ⟨_, by simp [optionFields, Table.lookup], hmake .sitemap accounts_sitemap⟩
  · exact ⟨_, by simp [optionFields, Table.lookup], accounts_node⟩

/-- A tag that chooses a reader is the name of a plugin. -/
theorem accounts_of_decodeKind {tag : Value} {reader : Decoder Integration} {st st' : List String}
    (h : (decodeKind tag).run st = .ok (reader, st')) :
    st' = st ∧ ∃ kind fields, tag = .string kind ∧
      Table.lookup kind optionFields = some fields ∧ Accounts reader (.record fields) true := by
  unfold decodeKind at h
  split at h
  · rename_i kind
    refine ⟨run_choose_state h, ?_⟩
    unfold choose at h
    split at h
    · rename_i x hlookup
      obtain ⟨fields, hfields, haccounts⟩ := accounts_kinds _ (Table.mem_of_lookup hlookup)
      rw [run_pure_eq_ok h]
      exact ⟨kind, fields, rfl, hfields, haccounts⟩
    · exact absurd h run_throw_ne_ok
  · exact absurd h run_throw_ne_ok

/-- Where all unknown keys are refused, every key is taken for something. -/
theorem exists_meets_of_asWhole {spot : Spot} {shape : Shape} {v : Value} {st : List String}
    (h : spot.asWhole.Accounts shape v st) {path : List Step} (hpath : HasKey v path) :
    ∃ fate, shape.Meets v path fate := by
  rcases h path hpath with hmeets | ⟨hopen, -⟩
  · exact hmeets
  · cases hopen

/-- A key of a plugin's table is the name of the plugin, or it belongs to its options. -/
theorem meets_table {spot : Spot} {entries : List (String × Value)} {kind : String}
    {fields : List (String × Shape)} {st : List String}
    (htag : Table.lookup "name" entries = some (.string kind))
    (hfields : Table.lookup kind optionFields = some fields)
    (hoptions : spot.asWhole.Accounts (.record fields)
      (.table (entries.filter fun e => e.1 != "name")) st)
    {path : List Step} (hpath : HasKey (.table entries) path) :
    ∃ fate, (Shape.tagged "name" optionFields).Meets (.table entries) path fate := by
  -- The options are those of a record of the kind, without the name.
  have hoption (key : String) (path : List Step) (hne : key ≠ "name")
      (hpath : HasKey (.table entries) (.key key :: path)) :
      ∃ fate, (Shape.tagged "name" optionFields).Meets (.table entries) (.key key :: path)
        fate := by
    obtain ⟨fate, hmeets⟩ := exists_meets_of_asWhole hoptions (hasKey_filter hne hpath)
    exact ⟨fate, .option htag hfields hmeets⟩
  cases hpath with
  | @key _ key v hlookup =>
    by_cases hkey : key = "name"
    · subst hkey
      exact ⟨_, .tag⟩
    · exact hoption key [] hkey (.key hlookup)
  | @inKey _ key v path hlookup hbelow =>
    by_cases hkey : key = "name"
    · -- The name is a text.
      subst hkey
      obtain rfl : Value.string kind = v := Option.some.inj (htag.symm.trans hlookup)
      exact absurd hbelow (not_hasKey_of_isLeaf rfl path)
    · exact hoption key path hkey (.inKey hlookup hbelow)

/-- In a plugin's array the name is the first item, and the options follow in their places. -/
theorem meets_array {spot : Spot} {rest : List Value} {kind : String}
    {fields : List (String × Shape)} {st : List String}
    (hfields : Table.lookup kind optionFields = some fields)
    (hoptions : spot.asWhole.Accounts (.record fields) (.array rest) st)
    {path : List Step} (hpath : HasKey (.array (.string kind :: rest)) path) :
    ∃ fate, (Shape.tagged "name" optionFields).Meets (.array (.string kind :: rest)) path
      fate := by
  cases hpath with
  | @inItem _ index v path hget hbelow =>
    cases index with
    | zero =>
      obtain rfl : Value.string kind = v := by simpa using hget
      exact absurd hbelow (not_hasKey_of_isLeaf rfl path)
    | succ index =>
      have hitem : HasKey (.array rest) (.index index :: path) :=
        .inItem (by simpa using hget) hbelow
      obtain ⟨fate, hmeets⟩ := exists_meets_of_asWhole hoptions hitem
      exact ⟨fate, .optionAt hfields hmeets⟩

/-- Nothing is listed below a plugin, so every key of it is taken for something. -/
theorem accounts : Accounts decode (.tagged "name" optionFields) false := by
  intro spot v st i st' _ h
  unfold decode at h
  split at h
  · rename_i entries hentries
    split at h
    · exact absurd h run_throw_ne_ok
    · rename_i tag htag
      obtain ⟨reader, mid, hreader, hread⟩ := run_bind_eq_ok h
      obtain ⟨rfl, kind, fields, rfl, hfields, haccounts⟩ := accounts_of_decodeKind hreader
      obtain ⟨hgrows, hoptions⟩ := haccounts spot.asWhole _ _ i st' rfl hread
      refine ⟨hgrows, Spot.accounts_of_entries? hentries ?_⟩
      intro path hpath
      exact .inl (meets_table htag hfields hoptions hpath)
  · exact absurd h run_throw_ne_ok
  · rename_i tag rest _
    obtain ⟨reader, mid, hreader, hread⟩ := run_bind_eq_ok h
    obtain ⟨rfl, kind, fields, rfl, hfields, haccounts⟩ := accounts_of_decodeKind hreader
    obtain ⟨hgrows, hoptions⟩ := haccounts spot.asWhole _ _ i st' rfl hread
    refine ⟨hgrows, ?_⟩
    intro path hpath
    exact .inl (meets_array hfields hoptions hpath)
  · exact absurd h run_throw_ne_ok

end Integration

/-! ## The record -/

namespace SiteConfig

theorem accounts : Accounts decode shape false := by
  apply accounts_record
  · exact .cons ⟨rfl, accounts_field ((readsPlain_address _).optional.accounts _)⟩
      (.cons ⟨rfl, accounts_field ((readsPlain_address _).accounts _)⟩
      (.cons ⟨rfl, accounts_field (accounts_choice _)⟩
      (.cons ⟨rfl, accounts_field (accounts_list Integration.accounts)⟩
      (.cons ⟨rfl, accounts_field Server.accounts⟩
      (.cons ⟨rfl, accounts_field BuildOutput.accounts⟩
      (.cons ⟨rfl, accounts_field Highlighting.accounts⟩
      (.cons ⟨rfl, accounts_field Defines.accounts⟩ .nil)))))))
  · exact .inr rfl

/-- Every key of a document that is accepted is a key of the record, or it is listed or a key on
the way to it is, or it is the name of a choice. The others are lost: they stand beside the
`builtin` of a computed constant, or in an item of an array for which the record has no field. -/
theorem keys_accounted {text : String} {r : SiteReading} (h : parse text = .ok r) :
    ∃ entries, Toml.parse? text = some entries ∧ ∀ path, HasKey (.table entries) path →
      shape.Meets (.table entries) path .field ∨ Listed (.table entries) r.unknownKeys path ∨
      shape.Meets (.table entries) path .choice ∨ shape.Meets (.table entries) path .beside ∨
      shape.Meets (.table entries) path .surplus := by
  unfold parse at h
  split at h
  · simp at h
  · rename_i entries hentries
    split at h
    · simp at h
    · rename_i config unknown hdecode
      obtain rfl := Except.ok.inj h
      refine ⟨entries, hentries, ?_⟩
      intro path hpath
      -- The four fates of a key are spelled out.
      rcases accounts.document hdecode hpath with ⟨fate, hmeets⟩ | hlisted
      · cases fate with
        | field => exact .inl hmeets
        | choice => exact .inr (.inr (.inl hmeets))
        | beside => exact .inr (.inr (.inr (.inl hmeets)))
        | surplus => exact .inr (.inr (.inr (.inr hmeets)))
      · exact .inr (.inl hlisted)

/-- Whether a text can be read with these unknown keys. -/
def lists (text : String) (unknown : List String) : Bool :=
  match parse text with
  | .ok r => r.unknownKeys == unknown
  | .error _ => false

theorem exists_of_lists {text : String} {unknown : List String} (h : lists text unknown = true) :
    ∃ r, parse text = .ok r ∧ r.unknownKeys = unknown := by
  unfold lists at h
  split at h
  · rename_i r hr
    exact ⟨r, hr, eq_of_beq h⟩
  · simp at h

/-- A document with slips at the top, in a section and in the name of a section. -/
def slipsText : String :=
  "outptu = 'static'\n[server]\nprot = 1\n[[integrations]]\nname = 'mdx'\ngfm = true\n" ++
    "[makrdown]\nshiki.wrap = true\n"

/-- The slips of that document are listed, the one in the name of a section without the keys
below it. -/
theorem keys_accounted_slips : ∃ r entries, parse slipsText = .ok r ∧
    r.unknownKeys = ["outptu", "server.prot", "makrdown"] ∧
    Toml.parse? slipsText = some entries ∧ ∀ path, HasKey (.table entries) path →
      shape.Meets (.table entries) path .field ∨ Listed (.table entries) r.unknownKeys path ∨
      shape.Meets (.table entries) path .choice ∨ shape.Meets (.table entries) path .beside ∨
      shape.Meets (.table entries) path .surplus := by
  have h : lists slipsText ["outptu", "server.prot", "makrdown"] = true := by decide +kernel
  obtain ⟨r, hr, hunknown⟩ := exists_of_lists h
  obtain ⟨entries, hentries, haccounted⟩ := keys_accounted hr
  exact ⟨r, entries, hr, hunknown, hentries, haccounted⟩

/-- A document with a slip beside a `builtin`. -/
def strayText : String := "[vite.define]\nX = \x7b builtin = \"build-date\", typo = 1 \x7d\n"

/-- The path to the slip. -/
def strayPath : List Step := [.key "vite", .key "define", .key "X", .key "typo"]

/-- The table of that document. -/
def strayEntries : List (String × Value) :=
  [("vite", .table [("define", .table
    [("X", .table [("builtin", .string "build-date"), ("typo", .integer 1)])])])]

/-- Whether a table is the one of that document. -/
def isStray : List (String × Value) → Bool
  | [("vite", .table [("define", .table
      [("X", .table [("builtin", .string "build-date"), ("typo", .integer 1)])])])] => true
  | _ => false

theorem eq_of_isStray {entries : List (String × Value)} (h : isStray entries = true) :
    entries = strayEntries := by
  unfold isStray at h
  split at h
  · rfl
  · simp at h

/-- The slip is neither a key of the record nor listed, and the document is accepted. -/
theorem keys_lost_beside_builtin : ∃ r entries, parse strayText = .ok r ∧
    Toml.parse? strayText = some entries ∧ HasKey (.table entries) strayPath ∧
    ¬shape.Meets (.table entries) strayPath .field ∧
    ¬Listed (.table entries) r.unknownKeys strayPath := by
  have h : lists strayText [] = true := by decide +kernel
  obtain ⟨r, hr, hunknown⟩ := exists_of_lists h
  have hread : (Toml.parse? strayText).any isStray = true := by decide +kernel
  obtain ⟨entries, hentries, hstray⟩ := (Option.any_eq_true _ _).1 hread
  obtain rfl := eq_of_isStray hstray
  have hbeside : shape.Meets (.table strayEntries) strayPath .beside :=
    .inField rfl rfl (.inField rfl rfl (.inName rfl (.beside (by decide))))
  refine ⟨r, strayEntries, hr, hentries, ?_, ?_, ?_⟩
  · exact .inKey rfl (.inKey rfl (.inKey rfl (.key rfl)))
  · intro hfield
    exact absurd (hfield.unique hbeside) (by decide)
  · rintro ⟨front, -, -, hmem⟩
    simp [hunknown] at hmem

end SiteConfig

end DocSite
