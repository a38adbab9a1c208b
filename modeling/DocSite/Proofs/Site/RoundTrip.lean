import DocSite.Proofs.BasePath
import DocSite.Proofs.Site.Sections
import DocSite.Proofs.Toml.Document
import DocSite.Proofs.Url.Graphic
import DocSite.Site.Config

/-!
# A site's record read back

  Writing the record of a site and reading the text again succeeds, uses every
  key, and gives the record back except in two cases: a priority that is no
  number differs from itself, and an address whose path is nothing but slashes is
  written as its bare origin, which loses users and surplus slashes.

  The argument goes through records that are settled, as reading leaves them: what
  is read is settled, and the text of a settled record reads back.
-/

namespace DocSite

open DocSite.Text DocSite.Toml

/-! ## Settled records -/

namespace SiteConfig

/-- A record as decoding leaves it: each of its parts was read from some text. -/
structure Settled (c : SiteConfig) : Prop where
  site : ∀ site, c.site = some site → ∃ s, SiteOrigin.parse s = .ok site
  base : ∃ s, BasePath.parse s = .ok c.base
  integrations : ∀ i ∈ c.integrations, i.Settled
  server : c.server.Settled

theorem yields_address {α : Type} {parse : String → Except AddressError α} :
    Yields (decodeAddress parse) fun x => ∃ s, parse s = .ok x := by
  intro spot v st x st' _ h
  obtain ⟨s, mid, -, h⟩ := run_bind_eq_ok h
  split at h
  · rename_i y hy
    rw [run_pure_eq_ok h]
    exact ⟨s, hy⟩
  · exact absurd h run_throw_ne_ok

/-- What is decoded is settled. -/
theorem yields_settled : Yields decode Settled := by
  apply yields_record
  · -- The record that reading starts from is settled, and storing a field leaves the others alone.
    exact ⟨by simp, ⟨"/", rfl⟩, by simp, ⟨by decide, ServerHost.settled_localhost⟩⟩
  · intro f hf
    simp only [record, List.mem_cons, List.not_mem_nil, or_false] at hf
    rcases hf with rfl | rfl | rfl | rfl | rfl | rfl | rfl | rfl
    · exact keeps_field (yields_optional yields_address) fun _ _ hx hr =>
        ⟨hx, hr.base, hr.integrations, hr.server⟩
    · exact keeps_field yields_address fun _ _ hx hr =>
        ⟨hr.site, hx, hr.integrations, hr.server⟩
    · exact keeps_field_of_store fun _ _ hr => ⟨hr.site, hr.base, hr.integrations, hr.server⟩
    · exact keeps_field (yields_list Integration.yields_settled) fun _ _ hx hr =>
        ⟨hr.site, hr.base, hx, hr.server⟩
    · exact keeps_field Server.yields_settled fun _ _ hx hr =>
        ⟨hr.site, hr.base, hr.integrations, hx⟩
    · exact keeps_field_of_store fun _ _ hr => ⟨hr.site, hr.base, hr.integrations, hr.server⟩
    · exact keeps_field_of_store fun _ _ hr => ⟨hr.site, hr.base, hr.integrations, hr.server⟩
    · exact keeps_field_of_store fun _ _ hr => ⟨hr.site, hr.base, hr.integrations, hr.server⟩

/-! ## Moving the path into the base -/

/-- There is no path left to move: none at all, or one that is no base path, or a base is set. -/
def Synced (c : SiteConfig) : Prop :=
  ∀ site, c.site = some site → c.base.isRoot = true → site.path.isEmpty = false →
    ∃ e, BasePath.parse site.path = .error e

theorem syncBase_of_synced {c : SiteConfig} (h : c.Synced) : c.syncBase = (c, "") := by
  unfold syncBase
  split
  · rfl
  · rename_i site hsite
    split
    · rfl
    · rename_i hmove
      simp only [Bool.or_eq_true, Bool.not_eq_true', not_or, Bool.not_eq_false,
        Bool.not_eq_true] at hmove
      obtain ⟨e, he⟩ := h site hsite hmove.1 hmove.2
      rw [he]

end SiteConfig

/-- The path of a site has no slashes at its ends. -/
theorem SiteOrigin.path_ends (site : SiteOrigin) :
    (∀ c ∈ site.path.toList.head?, c ≠ '/') ∧ site.path.toList.getLast? ≠ some '/' := by
  constructor
  · intro c hc
    have := head_dropWhile (fun c => c == '/') site.url.path.toList c
      (head_dropWhile_reverse (by simpa [path] using hc))
    simpa using this
  · intro hlast
    rw [path, String.toList_ofList, List.getLast?_reverse] at hlast
    have := head_dropWhile (fun c => c == '/') _ '/' hlast
    simp at this

/-- Reading the path of a site as a base path takes nothing off it. -/
theorem SiteOrigin.inner_path {s : String} {site : SiteOrigin} (h : parse s = .ok site) :
    BasePath.inner site.path = site.path.toList := by
  obtain ⟨hhead, hlast⟩ := site.path_ends
  rw [BasePath.inner, trimBoth_of_not_blank fun c hc => (isGraphic_path h c hc).not_blank]
  have hfirst : dropFirst '/' site.path.toList = site.path.toList := by
    cases hcs : site.path.toList with
    | nil => rfl
    | cons c cs =>
      have hc : c ≠ '/' := hhead c (by simp [hcs])
      rw [dropFirst, if_neg hc]
  rw [hfirst, dropLast_of_getLast? hlast]

/-- The path of a site that was read, as a base path, has a slash in front. -/
theorem SiteOrigin.text_of_path {s : String} {site : SiteOrigin} (h : parse s = .ok site)
    (hpath : site.path.isEmpty = false) {base : BasePath}
    (hbase : BasePath.parse site.path = .ok base) : base.text = "/" ++ site.path := by
  have hne : site.path.toList ≠ [] := by simpa using hpath
  rcases BasePath.of_parse hbase with ⟨hempty, -⟩ | ⟨-, htext, -⟩
  · exact absurd (inner_path h ▸ hempty) hne
  · rw [inner_path h] at htext
    apply String.ext
    rw [htext, String.toList_append]
    rfl

/-- The path of a site that was read, as a base path, is not the root. -/
theorem SiteOrigin.isRoot_of_path {s : String} {site : SiteOrigin} (h : parse s = .ok site)
    (hpath : site.path.isEmpty = false) {base : BasePath}
    (hbase : BasePath.parse site.path = .ok base) : base.isRoot = false := by
  rw [BasePath.isRoot, text_of_path h hpath hbase]
  simp

namespace SiteConfig

/-- After the path has been moved there is none left to move. -/
theorem synced_syncBase {c : SiteConfig} (h : c.Settled) : c.syncBase.1.Synced := by
  unfold syncBase
  -- The record changes only if it has a path to move, no base of its own, and the path is a base.
  split
  · rename_i hnone
    intro site hsite
    simp [hnone] at hsite
  · rename_i site hsite
    split
    · rename_i hstay
      intro site' hsite' hroot hpath
      obtain rfl : site = site' := by simpa [hsite] using hsite'
      simp [hroot, hpath] at hstay
    · rename_i hmove
      simp only [Bool.or_eq_true, Bool.not_eq_true', not_or, Bool.not_eq_false,
        Bool.not_eq_true] at hmove
      split
      · rename_i e he
        intro site' hsite' _ _
        obtain rfl : site = site' := by simpa [hsite] using hsite'
        exact ⟨e, he⟩
      · rename_i base hbase
        obtain ⟨s, hs⟩ := h.site site hsite
        -- The path has become a base that is not the root.
        have hnotRoot := SiteOrigin.isRoot_of_path hs hmove.2 hbase
        intro site' _ hroot _
        simp [hnotRoot] at hroot

theorem settled_syncBase {c : SiteConfig} (h : c.Settled) : c.syncBase.1.Settled := by
  unfold syncBase
  split
  · exact h
  · split
    · exact h
    · split
      · exact h
      · rename_i site _ _ _ base hbase
        refine ⟨?_, ⟨_, hbase⟩, h.integrations, h.server⟩
        intro origin horigin
        cases hparse : SiteOrigin.parse site.origin with
        | error e => simp [hparse, Except.toOption] at horigin
        | ok parsed =>
          obtain rfl : parsed = origin := by simpa [hparse, Except.toOption] using horigin
          exact ⟨_, hparse⟩

/-- What was read from a document is settled, and no path is left to move. -/
theorem of_parse {text : String} {r : SiteReading} (h : parse text = .ok r) :
    r.config.Settled ∧ r.config.Synced := by
  unfold parse at h
  split at h
  · simp at h
  · rename_i entries hentries
    split at h
    · simp at h
    · rename_i c unknown hdecode
      have hsettled : c.Settled := yields_settled _ _ _ _ _ (doubles_of_parse? hentries) hdecode
      obtain rfl := Except.ok.inj h
      exact ⟨settled_syncBase hsettled, synced_syncBase hsettled⟩

/-- What a document reads as, when its record has no path to move. -/
theorem parse_of_reads {text : String} {entries : List (String × Value)} {c : SiteConfig}
    (hparse : Toml.parse? text = some entries) (hreads : Reads decode (.table entries) c)
    (hsynced : c.Synced) :
    parse text = .ok { config := c, unknownKeys := [], log := "" } := by
  have hdecode : decodeDocument decode entries = .ok (c, []) := by
    rw [decodeDocument, hreads]
    rfl
  simp only [parse, hparse, hdecode, syncBase_of_synced hsynced]

end SiteConfig

/-! ## Writing -/

theorem Define.isSection_expr (text : String) : (Define.expr text).toToml.isSection = false := rfl

theorem Define.isSection_builtin (b : Builtin) : (Define.builtin b).toToml.isSection = true := rfl

theorem Define.arranged_toToml (d : Define) : d.toToml.arranged = d.toToml := by
  cases d with
  | expr text => simp [toToml, Value.arranged]
  | builtin b => exact arranged_of_plain (by simp [Value.isSection])

namespace Defines

/-- The constants with expressions before computed values, as a document writes them. -/
def expressionsFirst (d : Defines) : List (String × Define) :=
  d.table.entries.filter (fun e => !e.2.toToml.isSection) ++
    d.table.entries.filter fun e => e.2.toToml.isSection

theorem perm_expressionsFirst (d : Defines) : d.expressionsFirst.Perm d.table.entries := by
  have h := List.filter_append_perm (fun e : String × Define => !e.2.toToml.isSection)
    d.table.entries
  simpa [expressionsFirst] using h

theorem nodup_expressionsFirst (d : Defines) : (d.expressionsFirst.map Prod.fst).Nodup :=
  (d.perm_expressionsFirst.map Prod.fst).nodup_iff.2 d.table.nodup

/-- The same constants in the order in which a document writes them. -/
def arranged (d : Defines) : Defines := ⟨⟨d.expressionsFirst, d.nodup_expressionsFirst⟩⟩

theorem arrangedSections_defines (entries : List (String × Define)) :
    arrangedSections (entries.map fun (name, value) => (name, value.toToml)) =
      (entries.filter fun e => e.2.toToml.isSection).map fun (name, value) =>
        (name, value.toToml) := by
  induction entries with
  | nil => simp [arrangedSections]
  | cons e rest ih =>
    obtain ⟨name, value⟩ := e
    cases value with
    | expr text => simp [arrangedSections, Define.isSection_expr, ih]
    | builtin b =>
      have hfilter : ((name, Define.builtin b) :: rest).filter (fun e => e.2.toToml.isSection) =
          (name, Define.builtin b) :: rest.filter fun e => e.2.toToml.isSection :=
        List.filter_cons_of_pos (Define.isSection_builtin b)
      rw [hfilter, List.map_cons, List.map_cons, arrangedSections,
        if_pos (Define.isSection_builtin b), Define.arranged_toToml, ih]

/-- Arranging the written constants is writing the arranged ones. -/
theorem arranged_toToml (d : Defines) : d.toToml.arranged = d.arranged.toToml := by
  have hplain : plainEntries (d.table.entries.map fun (name, value) => (name, value.toToml)) =
      (d.table.entries.filter fun e => !e.2.toToml.isSection).map fun (name, value) =>
        (name, value.toToml) := by
    simp [plainEntries, List.filter_map, Function.comp_def]
  rw [toToml, arranged_single rfl, Value.arranged, hplain, arrangedSections_defines,
    ← List.map_append]
  rfl

end Defines

namespace Integration

/-- The options of a plugin hold no sub-tables. -/
theorem isSection_options (i : Integration) : ∀ e ∈ i.options, e.2.isSection = false := by
  intro e he
  cases i with
  | tailwind o =>
    simp only [options, List.mem_cons, List.not_mem_nil, or_false] at he
    rcases he with rfl | rfl | rfl <;> rfl
  | react o =>
    simp only [options, List.mem_cons, List.not_mem_nil, or_false] at he
    rcases he with rfl | rfl <;> exact isSection_strings _
  | mdx o =>
    simp only [options, List.mem_cons, List.not_mem_nil, or_false] at he
    rcases he with rfl | rfl <;> rfl
  | sitemap o =>
    obtain ⟨changefreq, priority⟩ := o
    simp only [options, List.mem_append, Option.mem_toList, Option.map_eq_some_iff] at he
    rcases he with ⟨f, -, rfl⟩ | ⟨p, -, rfl⟩ <;> rfl
  | node mode =>
    simp only [options, List.mem_cons, List.not_mem_nil, or_false] at he
    rw [he]
    rfl

theorem arranged_toToml (i : Integration) : i.toToml.arranged = i.toToml := by
  apply arranged_of_plain
  intro e he
  rcases List.mem_cons.1 he with rfl | he
  · rfl
  · exact i.isSection_options e he

end Integration

namespace SiteConfig

theorem arranged_integrations (integrations : List Integration) :
    (Value.array (integrations.map Integration.toToml)).arranged =
      .array (integrations.map Integration.toToml) := by
  have hitems : arrangedItems (integrations.map Integration.toToml) =
      integrations.map Integration.toToml := by
    induction integrations with
    | nil => rfl
    | cons i rest ih => simp [arrangedItems, Integration.arranged_toToml, ih]
  rw [Value.arranged, hitems]
  split <;> rfl

/-- A document writes a record in its own order, the constants aside. -/
theorem arrange_toToml (c : SiteConfig) :
    arrange c.toToml = { c with defines := c.defines.arranged }.toToml := by
  have hserver : c.server.toToml.isSection = true ∧ c.server.toToml.arranged = c.server.toToml :=
    ⟨rfl, arranged_of_plain (by simp [Value.isSection])⟩
  have hbuild : c.build.toToml.isSection = true ∧ c.build.toToml.arranged = c.build.toToml :=
    ⟨rfl, arranged_of_plain (by simp [Value.isSection])⟩
  have hmarkdown : c.markdown.toToml.isSection = true ∧
      c.markdown.toToml.arranged = c.markdown.toToml := by
    refine ⟨rfl, ?_⟩
    rw [Highlighting.toToml, arranged_single rfl, arranged_of_plain]
    simp [isSection_strings]
    exact ⟨rfl, rfl⟩
  have hdefines : c.defines.toToml.isSection = true := rfl
  have hplugins := arranged_integrations c.integrations
  have htext (s : String) : (Value.string s).isSection = false := rfl
  -- Sections come after plain values, and plugins and the address decide which of the two there
  -- are.
  cases hs : (Value.array (c.integrations.map Integration.toToml)).isSection <;>
    cases hsite : c.site <;>
    simp [arrange, toToml, plainEntries, arrangedSections, hsite, hs, htext, hserver, hbuild,
      hmarkdown, hdefines, hplugins, Defines.arranged_toToml]

/-! ## Records as documents -/

end SiteConfig

/-- A plugin is written in a table of lines. -/
theorem Integration.writable_entries {i : Integration} (h : i.Settled) (room : Nat) :
    ((("name", Value.string i.name) :: i.options).map Prod.fst).Nodup ∧
      ∀ e ∈ ("name", Value.string i.name) :: i.options, e.2.Writable room := by
  have hlines : ∀ e ∈ i.options, e.2.IsLine → e.2.Writable room := fun e he =>
    Value.writable_of_isLine room (i.isSection_options e he)
  -- The names of one kind of plugin are different, and each value fits on a line.
  refine ⟨?_, List.forall_mem_cons.2 ⟨Value.writable_string room _, fun e he => ?_⟩⟩
  · cases i with
    | tailwind o => simp [options]
    | react o => simp [options]
    | mdx o => simp [options]
    | sitemap o =>
      obtain ⟨changefreq, priority⟩ := o
      cases changefreq <;> cases priority <;> simp [options]
    | node mode => simp [options]
  · refine hlines e he ?_
    cases i with
    | tailwind o =>
      simp only [options, List.mem_cons, List.not_mem_nil, or_false] at he
      rcases he with rfl | rfl | rfl <;> trivial
    | react o =>
      simp only [options, List.mem_cons, List.not_mem_nil, or_false] at he
      rcases he with rfl | rfl <;> exact isLine_strings _
    | mdx o =>
      simp only [options, List.mem_cons, List.not_mem_nil, or_false] at he
      rcases he with rfl | rfl <;> trivial
    | sitemap o =>
      simp only [options, List.mem_append, Option.mem_toList, Option.map_eq_some_iff] at he
      rcases he with ⟨f, -, rfl⟩ | ⟨x, hx, rfl⟩
      · trivial
      · exact h x hx
    | node mode =>
      simp only [options, List.mem_cons, List.not_mem_nil, or_false] at he
      rw [he]
      trivial

theorem Define.writable_toToml (d : Define) (room : Nat) : d.toToml.Writable (room + 1) := by
  cases d with
  | expr text => exact Value.writable_string _ text
  | builtin b =>
    exact Value.writable_table (by simp) (by simpa using Value.writable_string room _)

theorem Defines.writable_toToml (d : Defines) (room : Nat) : d.toToml.Writable (room + 3) := by
  refine Value.writable_table (by simp) ?_
  simp only [List.mem_singleton, forall_eq]
  refine Value.writable_table ?_ fun e he => ?_
  · simpa [Function.comp_def] using d.table.nodup
  · obtain ⟨⟨name, value⟩, -, rfl⟩ := List.mem_map.1 he
    exact value.writable_toToml room

theorem Highlighting.writable_toToml (h : Highlighting) (room : Nat) :
    h.toToml.Writable (room + 2) := by
  refine Value.writable_table (by simp) ?_
  simp only [List.mem_singleton, forall_eq]
  refine Value.writable_table (by simp) ?_
  simp only [List.forall_mem_cons, List.not_mem_nil, false_implies, implies_true, and_true]
  exact ⟨Value.writable_string room _, Value.writable_strings room _,
    Value.writable_of_isLine room rfl trivial⟩

theorem Server.writable_toToml {s : Server} (h : s.Settled) (room : Nat) :
    s.toToml.Writable (room + 1) := by
  have hport : (Value.integer s.port).IsLine := by
    have hlt := h.port
    constructor <;> omega
  refine Value.writable_table (by simp) ?_
  simp only [List.forall_mem_cons, List.not_mem_nil, false_implies, implies_true, and_true]
  exact ⟨Value.writable_of_isLine room rfl hport, Value.writable_string room _⟩

theorem BuildOutput.writable_toToml (b : BuildOutput) (room : Nat) :
    b.toToml.Writable (room + 1) := by
  refine Value.writable_table (by simp) ?_
  simp only [List.forall_mem_cons, List.not_mem_nil, false_implies, implies_true, and_true]
  exact ⟨Value.writable_string room _, Value.writable_string room _⟩

namespace SiteConfig

theorem writable_integrations {integrations : List Integration}
    (h : ∀ i ∈ integrations, i.Settled) (room : Nat) :
    (Value.array (integrations.map Integration.toToml)).Writable (room + 1) := by
  cases integrations with
  | nil => exact Value.writable_of_isLine _ rfl (by simp [Value.IsLine])
  | cons i rest =>
    refine .inr (.inr ⟨(i :: rest).map fun j => ("name", .string j.name) :: j.options, ?_, by simp,
      fun table htable => ?_⟩)
    · rw [List.map_map]
      rfl
    · obtain ⟨j, hj, rfl⟩ := List.mem_map.1 htable
      exact Integration.writable_entries (h j hj) room

/-- The record of a settled site is a table that reads back from its document. -/
theorem parse?_toTomlText {c : SiteConfig} (h : c.Settled) :
    Toml.parse? c.toTomlText = some (arrange c.toToml) := by
  -- Each level of a section uses up some of the nesting that a document may have.
  have hintegrations := writable_integrations h.integrations 78
  have hserver := Server.writable_toToml h.server 78
  have hbuild := c.build.writable_toToml 78
  have hmarkdown := c.markdown.writable_toToml 77
  have hdefines := c.defines.writable_toToml 76
  have htext := Value.writable_string Scanner.nestingLimit
  have hrest : ∀ e ∈ [("base", Value.string c.base.display), ("output", .string c.output.name),
      ("integrations", .array (c.integrations.map Integration.toToml)),
      ("server", c.server.toToml), ("build", c.build.toToml), ("markdown", c.markdown.toToml),
      ("vite", c.defines.toToml)], e.2.Writable Scanner.nestingLimit := by
    simp only [List.forall_mem_cons, List.not_mem_nil, false_implies, implies_true, and_true]
    exact ⟨htext _, htext _, hintegrations, hserver, hbuild, hmarkdown, hdefines⟩
  apply parse?_render
  · -- The keys are different with an address and without one.
    cases hsite : c.site <;> simp [toToml, hsite]
  · intro e he
    rcases List.mem_append.1 he with he | he
    · obtain ⟨site, -, rfl⟩ := Option.map_eq_some_iff.1 (Option.mem_toList.1 he)
      exact htext _
    · exact hrest e he

/-! ## Reading back -/

/-- What reading the written address of a site gives. -/
def ReadsSite (site read : Option SiteOrigin) : Prop :=
  match site with
  | none => read = none
  | some site => ∃ again, read = some again ∧ SiteOrigin.parse site.display = .ok again

theorem reads_address {α : Type} {parse : String → Except AddressError α} {s : String} {x : α}
    (h : parse s = .ok x) : Reads (decodeAddress parse) (.string s) x := by
  intro spot
  simp [decodeAddress, decodeString, h]

/-- The written record of a settled site reads back, up to its address. -/
theorem reads_toToml {c : SiteConfig} (h : c.Settled) {site : Option SiteOrigin}
    (hsite : ReadsSite c.site site) : Reads decode (.table c.toToml) { c with site } := by
  intro spot
  obtain ⟨s, hs⟩ := h.base
  -- Each field reads back by itself, and the record is read field by field.
  have hbase := reads_address (BasePath.parse_display hs)
  have hplugin : ∀ i ∈ c.integrations, Reads Integration.decode i.toToml (id i) :=
    fun i _ => i.reads_toToml
  have hplugins := reads_list hplugin
  have houtput := c.output.reads_name
  have hserver := Server.reads_toToml h.server
  have hbuild := c.build.reads_toToml
  have hmarkdown := c.markdown.reads_toToml
  have hdefines := c.defines.reads_toToml
  unfold ReadsSite at hsite
  split at hsite
  · rename_i hnone
    simp [decode, toToml, hnone, hsite, decodeRecord, Value.entries?, decodeFields, record, field,
      hbase _, houtput _, hplugins _, hserver _, hbuild _, hmarkdown _, hdefines _]
  · rename_i origin hsome
    obtain ⟨again, rfl, hagain⟩ := hsite
    have hread := reads_address hagain
    simp [decode, toToml, hsome, decodeRecord, Value.entries?, decodeFields, record, field,
      decodeOptional, hread _, hbase _, houtput _, hplugins _, hserver _, hbuild _, hmarkdown _,
      hdefines _]

end SiteConfig

/-! ## Addresses -/

/-- Reading the text of a URL gives the URL. -/
def Url.ReadsBack (u : Url) : Prop := Url.parse? u.text = some u

/-- Reading the origin of a URL gives the URL without a user, and the root as its path. -/
def Url.OriginReadsBack (u : Url) : Prop :=
  Url.parse? u.originText = some { u with username := "", password := "", path := "/" }

namespace SiteOrigin

/-- The address without its user and with the root as its path. -/
def bare (site : SiteOrigin) : SiteOrigin :=
  ⟨{ site.url with username := "", password := "", path := "/" }⟩

@[simp] theorem path_bare (site : SiteOrigin) : site.bare.path = "" := by
  simp [path, bare]

theorem eq_bare_iff (site : SiteOrigin) : site = site.bare ↔
    site.url.username = "" ∧ site.url.password = "" ∧ site.url.path = "/" := by
  obtain ⟨⟨scheme, username, password, host, port, path, query, fragment⟩⟩ := site
  simp [bare]

/-- What reading the displayed address of a site gives: the site itself if it has a path, else
the bare site. -/
def again (site : SiteOrigin) : SiteOrigin := if site.path.isEmpty then site.bare else site

/-- An address that reads back as a URL of the web reads back as a site. -/
theorem parse_of_parse? {s : String} {site : SiteOrigin} (h : parse s = .ok site) {t : String}
    {u : Url} (ht : trim t = t) (hu : Url.parse? t = some u) (hscheme : u.scheme = site.url.scheme)
    (hhost : u.host = site.url.host) (hquery : u.hasQuery = false)
    (hfragment : u.hasFragment = false) : parse t = .ok ⟨u⟩ := by
  obtain ⟨-, hsiteScheme, hsiteHost, -, -⟩ := of_parse h
  have hweb : (u.scheme != "http" && u.scheme != "https") = false := by
    rcases hsiteScheme with hs | hs <;> simp [hscheme, hs]
  have hsome : u.host.isNone = false := by simpa [hhost] using hsiteHost
  simp [parse, ht, hu, hweb, hsome, hquery, hfragment]

/-- The displayed address of a site reads back, without user and slashes if it has no path. -/
theorem parse_display {s : String} {site : SiteOrigin} (h : parse s = .ok site)
    (hback : site.url.ReadsBack) (horigin : site.url.OriginReadsBack) :
    parse site.display = .ok site.again := by
  obtain ⟨-, -, -, hquery, hfragment⟩ := of_parse h
  have htrim := trim_display h
  unfold display again at *
  split
  · rename_i hempty
    rw [if_pos hempty] at htrim
    exact parse_of_parse? h htrim horigin rfl rfl hquery hfragment
  · rename_i hpath
    rw [if_neg hpath] at htrim
    exact parse_of_parse? h htrim hback rfl rfl hquery hfragment

/-- An address reads back as itself if it has a path, or neither a user nor surplus slashes. -/
theorem eq_again_iff (site : SiteOrigin) : site = site.again ↔
    site.path ≠ "" ∨
      (site.url.username = "" ∧ site.url.password = "" ∧ site.url.path = "/") := by
  unfold again
  split
  · rename_i hempty
    have hpath : site.path = "" := by simpa using hempty
    simp [hpath, eq_bare_iff]
  · rename_i hne
    have hpath : site.path ≠ "" := by simpa using hne
    simp [hpath]

end SiteOrigin

/-! ## Equality -/

namespace Binary64

theorem lt_self (x : Binary64) : lt x x = false := by
  cases x with
  | nan => rfl
  | infinite s => cases s <;> rfl
  | finite s m e => simp only [lt, Rat.lt_irrefl, decide_false]

/-- Only NaN differs from itself. -/
theorem eqValue_self_iff (x : Binary64) : eqValue x x = true ↔ x ≠ .nan := by
  simp [eqValue, lt_self]

end Binary64

theorem Integration.sameAs_self_iff (i : Integration) : i.sameAs i = true ↔
    ∀ o, i = .sitemap o → o.priority ≠ some .nan := by
  cases i with
  | sitemap o =>
    obtain ⟨changefreq, priority⟩ := o
    cases priority with
    | none => simp [sameAs, samePriority]
    | some p => simp [sameAs, samePriority, Binary64.eqValue_self_iff]
  | tailwind o => simp [sameAs]
  | react o => simp [sameAs]
  | mdx o => simp [sameAs]
  | node mode => simp [sameAs]

namespace SiteConfig

theorem sameIntegrations_self_iff (integrations : List Integration) :
    sameIntegrations integrations integrations = true ↔
      ∀ i ∈ integrations, i.sameAs i = true := by
  induction integrations with
  | nil => simp [sameIntegrations]
  | cons i rest ih => simp [sameIntegrations, ih]

/-- A record is the same as one with another address and its constants in another order exactly
when the addresses are equal and no priority is NaN. -/
theorem sameAs_iff (c : SiteConfig) (site : Option SiteOrigin) :
    c.sameAs { c with site, defines := c.defines.arranged } = true ↔
      c.site = site ∧ ∀ o, .sitemap o ∈ c.integrations → o.priority ≠ some .nan := by
  have htable : c.defines.table.sameAs c.defines.arranged.table = true :=
    Table.sameAs_of_perm c.defines.perm_expressionsFirst.symm
  have hplugins : (∀ i ∈ c.integrations, i.sameAs i = true) ↔
      ∀ o, .sitemap o ∈ c.integrations → o.priority ≠ some .nan := by
    constructor
    · intro h o ho
      exact (Integration.sameAs_self_iff _).1 (h _ ho) o rfl
    · intro h i hi
      apply (Integration.sameAs_self_iff i).2
      rintro o rfl
      exact h o hi
  simp [sameAs, htable, sameIntegrations_self_iff, hplugins]

/-- The address that is read back leaves no path to move either. -/
theorem synced_again {c : SiteConfig} (h : c.Synced) {defines : Defines} :
    ({ c with site := c.site.map SiteOrigin.again, defines } : SiteConfig).Synced := by
  intro site hsite hroot hpath
  obtain ⟨site, hc, rfl⟩ := Option.map_eq_some_iff.1 hsite
  unfold SiteOrigin.again at hpath ⊢
  split at hpath
  · simp at hpath
  · rename_i hne
    rw [if_neg hne]
    exact h site hc hroot hpath

/-! ## The record as a whole -/

/-- The text of a record that was read from a document reads again with every key used, and as
the same record exactly when no priority is NaN and the address, if there is one, has a path or
has neither a user nor surplus slashes. -/
theorem parse_toTomlText {text : String} {r : SiteReading} (h : parse text = .ok r)
    (hback : ∀ site, r.config.site = some site → site.url.ReadsBack)
    (horigin : ∀ site, r.config.site = some site → site.url.OriginReadsBack) :
    ∃ again, parse r.config.toTomlText = .ok again ∧ again.unknownKeys = [] ∧
      (r.config.sameAs again.config = true ↔
        (∀ o, .sitemap o ∈ r.config.integrations → o.priority ≠ some .nan) ∧
        ∀ site, r.config.site = some site → site.path ≠ "" ∨
          (site.url.username = "" ∧ site.url.password = "" ∧ site.url.path = "/")) := by
  obtain ⟨hsettled, hsynced⟩ := of_parse h
  generalize r.config = c at *
  have hsite : ReadsSite c.site (c.site.map SiteOrigin.again) := by
    cases hc : c.site with
    | none => rfl
    | some site =>
      obtain ⟨s, hs⟩ := hsettled.site site hc
      exact ⟨_, rfl, SiteOrigin.parse_display hs (hback site hc) (horigin site hc)⟩
  -- The text has the constants in another order, and that record is settled as well.
  have hsettled' : ({ c with defines := c.defines.arranged } : SiteConfig).Settled :=
    ⟨hsettled.site, hsettled.base, hsettled.integrations, hsettled.server⟩
  have hreads := reads_toToml hsettled' hsite
  rw [← arrange_toToml] at hreads
  have hagain := parse_of_reads (parse?_toTomlText hsettled) hreads (synced_again hsynced)
  refine ⟨_, hagain, rfl, ?_⟩
  rw [sameAs_iff, and_comm]
  cases hc : c.site with
  | none => simp
  | some site => simp [SiteOrigin.eq_again_iff]

/-- A document whose address carries a user and no path, with a priority and two constants. -/
def userText : String :=
  "site = 'https://me:pw@a.io//'\nvite.define.A.builtin = 'build-date'\nvite.define.B = '1'\n" ++
    "[[integrations]]\nname = 'sitemap'\npriority = 0.5\n"

/-- The address of that document. -/
def userSite : SiteOrigin :=
  ⟨{ scheme := "https", username := "me", password := "pw", host := some (.domain "a.io"),
     path := "//" }⟩

/-- Whether a text reads as a record with a given address. -/
def hasSite (text : String) (site : SiteOrigin) : Bool :=
  match parse text with
  | .ok r => decide (r.config.site = some site)
  | .error _ => false

theorem exists_of_hasSite {text : String} {site : SiteOrigin} (h : hasSite text site = true) :
    ∃ r, parse text = .ok r ∧ r.config.site = some site := by
  unfold hasSite at h
  split at h
  · rename_i r hr
    exact ⟨r, hr, of_decide_eq_true h⟩
  · simp at h

/-- The user is lost when the record is written, and every key is used when it is read. -/
theorem parse_toTomlText_sample : ∃ r again, parse userText = .ok r ∧
    parse r.config.toTomlText = .ok again ∧ again.unknownKeys = [] ∧
    r.config.sameAs again.config = false := by
  have h : hasSite userText userSite = true := by decide +kernel
  obtain ⟨r, hr, hsite⟩ := exists_of_hasSite h
  have hback : userSite.url.ReadsBack := by
    unfold Url.ReadsBack
    decide +kernel
  have horigin : userSite.url.OriginReadsBack := by
    unfold Url.OriginReadsBack
    decide +kernel
  -- What is assumed of addresses is needed for this one only.
  have honly : ∀ site, r.config.site = some site → site = userSite := fun site hs =>
    Option.some.inj (hs.symm.trans hsite)
  obtain ⟨again, hagain, hkeys, hsame⟩ := parse_toTomlText hr
    (fun site hs => honly site hs ▸ hback) (fun site hs => honly site hs ▸ horigin)
  have hlost : ¬(userSite.path ≠ "" ∨ (userSite.url.username = "" ∧ userSite.url.password = "" ∧
      userSite.url.path = "/")) := by decide +kernel
  refine ⟨r, again, hr, hagain, hkeys, ?_⟩
  rw [← Bool.not_eq_true, hsame]
  rintro ⟨-, hkept⟩
  exact hlost (hkept userSite hsite)

end SiteConfig

end DocSite
