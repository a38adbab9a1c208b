import DocSite.Proofs.Ip
import DocSite.Proofs.Toml.Arrange
import DocSite.Proofs.Toml.Decode
import DocSite.Site.BuildOutput
import DocSite.Site.Define
import DocSite.Site.Integration
import DocSite.Site.Markdown
import DocSite.Site.RenderMode
import DocSite.Site.Server

/-!
# The sections of a site read back

  Each section of a site's record is written as a value from which its decoder
  reads the section again. Two sections need that they were read before: a server
  host must be in the form that reading leaves it in, and a port must fit.
-/

namespace DocSite

open DocSite.Text DocSite.Toml

/-! ## Choices by name -/

theorem RenderMode.reads_name (mode : RenderMode) : Reads decode (.string mode.name) mode := by
  intro spot
  cases mode <;> rfl

theorem ChangeFrequency.reads_name (f : ChangeFrequency) :
    Reads (decodeWholeChoice choices) (.string f.name) f := by
  intro spot
  cases f <;> rfl

theorem NodeMode.reads_name (mode : NodeMode) :
    Reads (decodeWholeChoice choices) (.string mode.name) mode := by
  intro spot
  cases mode <;> rfl

/-! ## Plain sections -/

theorem BuildOutput.reads_toToml (b : BuildOutput) : Reads decode b.toToml b := by
  intro spot
  simp [decode, toToml, decodeRecord, Value.entries?, decodeFields, record, field, decodePath,
    decodeString]

theorem Highlighting.reads_toToml (h : Highlighting) : Reads decode h.toToml h := by
  intro spot
  have hlangs := reads_strings h.langs
  simp [decode, toToml, decodeRecord, Value.entries?, decodeFields, sectionRecord, record, field,
    decodeString, decodeBool, hlangs _]

/-! ## Servers -/

namespace ServerHost

/-- A host as reading leaves it: an address that fits, or a trimmed name that is no address. -/
inductive Settled : ServerHost → Prop
  | address {ip : IpAddress} : ip.Fits → Settled (.address ip)
  | name {s : String} : trim s = s → IpAddress.parse? s = none → Settled (.name s)

theorem settled_ofText (s : String) : (ofText s).Settled := by
  unfold ofText
  split
  · rename_i ip hip
    exact .address (IpAddress.fits_of_parse? hip)
  · rename_i hnone
    refine .name ?_ hnone
    rw [trim, toList_trim, trimBoth_trimBoth, trim]

theorem settled_localhost : (ServerHost.name "localhost").Settled :=
  .name (by decide +kernel) (by decide +kernel)

theorem yields_settled : Yields decode Settled := by
  intro spot v st host st' _ h
  unfold decode at h
  split at h
  · rw [run_pure_eq_ok h]
    exact .address (show (0 : Nat) < 4294967296 by decide)
  · rw [run_pure_eq_ok h]
    exact settled_localhost
  · rw [run_pure_eq_ok h]
    exact settled_ofText _
  · exact absurd h run_throw_ne_ok

/-- A settled host is what its text stands for. -/
theorem ofText_text {host : ServerHost} (h : host.Settled) : ofText host.text = host := by
  cases h with
  | @address ip hfits =>
    have htrim : trim ip.text = ip.text := by
      rw [trim, trimBoth_of_not_blank fun c hc => (ip.isGraphic_text c hc).not_blank,
        String.ofList_toList]
    simp [ofText, text, htrim, IpAddress.parse?_text hfits]
  | name htrim hnone => simp [ofText, text, htrim, hnone]

end ServerHost

theorem yields_port : Yields decodePort (· < 65536) := by
  intro spot v st n st' _ h
  unfold decodePort at h
  split at h
  · split at h
    · rename_i hrange
      simp only [Bool.and_eq_true, decide_eq_true_eq] at hrange
      rw [run_pure_eq_ok h]
      omega
    · exact absurd h run_throw_ne_ok
  · exact absurd h run_throw_ne_ok

/-- A server as reading leaves it. -/
structure Server.Settled (s : Server) : Prop where
  port : s.port < 65536
  host : s.host.Settled

theorem Server.yields_settled : Yields decode Settled := by
  apply yields_record
  · exact ⟨by decide, ServerHost.settled_localhost⟩
  · intro f hf
    simp only [record, List.mem_cons, List.not_mem_nil, or_false] at hf
    rcases hf with rfl | rfl
    · exact keeps_field yields_port fun port r hport hr => ⟨hport, hr.host⟩
    · exact keeps_field ServerHost.yields_settled fun host r hhost hr => ⟨hr.port, hhost⟩

theorem Server.reads_toToml {s : Server} (h : s.Settled) : Reads decode s.toToml s := by
  intro spot
  have hport : (s.port : Int) < 65536 := by
    have := h.port
    omega
  have hhost : ServerHost.ofText s.host.text = s.host := ServerHost.ofText_text h.host
  simp [decode, toToml, decodeRecord, Value.entries?, decodeFields, record, field, decodePort,
    ServerHost.decode, hport, hhost]

/-! ## Integrations -/

namespace Integration

/-- No option is called `name`. -/
theorem options_filter (i : Integration) :
    (("name", Value.string i.name) :: i.options).filter (fun (key, _) => key != "name") =
      i.options := by
  cases i with
  | tailwind o => rfl
  | react o => rfl
  | mdx o => rfl
  | sitemap o =>
    obtain ⟨changefreq, priority⟩ := o
    cases changefreq <;> cases priority <;> rfl
  | node mode => rfl

/-- The name of a plugin chooses the reader of its options. -/
theorem decode_toToml {i : Integration} {reader : Decoder Integration}
    (hreader : Table.lookup i.name kinds = some reader) (spot : Spot) :
    decode spot i.toToml = reader spot.asWhole (.table i.options) := by
  have hkind : decodeKind (.string i.name) = pure reader := choose_eq hreader
  simp only [decode, toToml, Value.entries?, Table.lookup, if_true, hkind, pure_bind,
    options_filter]

theorem reads_tailwind (o : TailwindOptions) (spot : Spot) :
    decodeRecord tailwindRecord {} spot (.table (options (.tailwind o))) = pure o := by
  simp [options, decodeRecord, Value.entries?, decodeFields, tailwindRecord, field, decodeBool,
    decodePath]

theorem reads_react (o : ReactOptions) (spot : Spot) :
    decodeRecord reactRecord {} spot (.table (options (.react o))) = pure o := by
  have hincluded := reads_strings o.included
  have hexcluded := reads_strings o.excluded
  simp [options, decodeRecord, Value.entries?, decodeFields, reactRecord, field, hincluded _,
    hexcluded _]

theorem reads_mdx (o : MdxOptions) (spot : Spot) :
    decodeRecord mdxRecord {} spot (.table (options (.mdx o))) = pure o := by
  simp [options, decodeRecord, Value.entries?, decodeFields, mdxRecord, field, decodeBool]

theorem reads_sitemap (o : SitemapOptions) (spot : Spot) :
    decodeRecord sitemapRecord {} spot (.table (options (.sitemap o))) = pure o := by
  obtain ⟨changefreq, priority⟩ := o
  have hfreq (f : ChangeFrequency) := f.reads_name
  cases changefreq <;> cases priority <;>
    simp [options, decodeRecord, Value.entries?, decodeFields, sitemapRecord, field,
      decodeOptional, decodeFloat, hfreq _ _]

theorem reads_node (mode : NodeMode) (spot : Spot) :
    decodeNode spot (.table (options (.node mode))) = pure (.node mode) := by
  have hmode := mode.reads_name
  simp [options, decodeNode, decodeRecord, Value.entries?, decodeFields, nodeRecord, field,
    hmode _]

/-- A plugin reads back with all its options. -/
theorem reads_toToml (i : Integration) : Reads decode i.toToml i := by
  intro spot
  cases i with
  | tailwind o =>
    rw [decode_toToml rfl]
    simp [reads_tailwind]
  | react o =>
    rw [decode_toToml rfl]
    simp [reads_react]
  | mdx o =>
    rw [decode_toToml rfl]
    simp [reads_mdx]
  | sitemap o =>
    rw [decode_toToml rfl]
    simp [reads_sitemap]
  | node mode =>
    rw [decode_toToml rfl]
    simp [reads_node]

/-- A plugin as reading leaves it: its priority, if it has one, is a double. -/
def Settled : Integration → Prop
  | .sitemap o => ∀ x, o.priority = some x → x.IsDouble
  | _ => True

theorem yields_sitemap : Yields (decodeRecord sitemapRecord {})
    fun o => ∀ x, o.priority = some x → x.IsDouble := by
  apply yields_record
  · simp
  · intro f hf
    simp only [sitemapRecord, List.mem_cons, List.not_mem_nil, or_false] at hf
    rcases hf with rfl | rfl
    · exact keeps_field_of_store fun _ _ hr => hr
    · exact keeps_field (yields_optional yields_float) fun _ _ hx _ => hx

/-- The reader of any plugin's options leaves a settled plugin. -/
theorem yields_kinds : ∀ e ∈ kinds, Yields e.2 Settled := by
  -- Only a sitemap holds a number, which has to be a double.
  have htrivial : ∀ {α : Type} {item : Decoder α} {make : α → Integration},
      (∀ x, (make x).Settled) → Yields (fun spot v => return make (← item spot v)) Settled := by
    intro α item make hmake spot v st i st' _ h
    obtain ⟨x, mid, -, h⟩ := run_bind_eq_ok h
    rw [run_pure_eq_ok h]
    exact hmake x
  intro e he
  simp only [kinds, List.mem_cons, List.not_mem_nil, or_false] at he
  rcases he with rfl | rfl | rfl | rfl | rfl
  · exact htrivial fun _ => trivial
  · exact htrivial fun _ => trivial
  · exact htrivial fun _ => trivial
  · intro spot v st i st' hv h
    obtain ⟨o, mid, ho, h⟩ := run_bind_eq_ok h
    rw [run_pure_eq_ok h]
    exact yields_sitemap _ _ _ _ _ hv ho
  · intro spot v st i st' _ h
    obtain ⟨mode, mid, -, h⟩ := run_bind_eq_ok h
    split at h
    · rw [run_pure_eq_ok h]
      trivial
    · exact absurd h run_throw_ne_ok

theorem yields_of_decodeKind {tag : Value} {reader : Decoder Integration} {st st' : List String}
    (h : (decodeKind tag).run st = .ok (reader, st')) : Yields reader Settled := by
  unfold decodeKind at h
  split at h
  · unfold choose at h
    split at h
    · rename_i hlookup
      rw [run_pure_eq_ok h]
      exact yields_kinds _ (Table.mem_of_lookup hlookup)
    · exact absurd h run_throw_ne_ok
  · exact absurd h run_throw_ne_ok

/-- A decoded plugin is settled. -/
theorem yields_settled : Yields decode Settled := by
  intro spot v st i st' hv h
  unfold decode at h
  split at h
  · rename_i entries hentries
    -- What is left without the name are values of the same document.
    have hrest : ∀ e ∈ entries.filter (fun (key, _) => key != "name"), e.2.Doubles :=
      fun e he => hv.entries? hentries e (List.mem_of_mem_filter he)
    split at h
    · exact absurd h run_throw_ne_ok
    · obtain ⟨reader, mid, hreader, h⟩ := run_bind_eq_ok h
      exact yields_of_decodeKind hreader _ _ _ _ _ (.table hrest) h
  · exact absurd h run_throw_ne_ok
  · cases hv with
    | array hitems =>
      obtain ⟨reader, mid, hreader, h⟩ := run_bind_eq_ok h
      refine yields_of_decodeKind hreader _ _ _ _ _ (.array fun x hx => ?_) h
      exact hitems x (List.mem_cons_of_mem _ hx)
  · exact absurd h run_throw_ne_ok

end Integration

/-! ## Constants -/

theorem Define.reads_toToml (d : Define) : Reads decode d.toToml d := by
  intro spot
  cases d with
  | expr text => rfl
  | builtin b => cases b <;> rfl

theorem Defines.reads_toToml (d : Defines) : Reads decode d.toToml d := by
  intro spot
  have hentry : ∀ e ∈ d.table.entries, Reads Define.decode e.2.toToml e.2 :=
    fun e _ => e.2.reads_toToml
  have htable := reads_table d.table hentry
  simp [decode, toToml, decodeRecord, Value.entries?, decodeFields, record, field, htable _]

end DocSite
