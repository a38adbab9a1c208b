import DocSite.Proofs.Diagnostics
import DocSite.Proofs.Site.RoundTrip

/-!
# The path of a site's address

  An address may carry a path, which reading turns into the base if none is set.
  The paths of addresses and base paths have different grammars: an address may
  have empty segments, characters that no base path may have, and `%` without two
  digits behind it. Of a record without errors, the canonical URL has the path of
  the address exactly when that path is a base path too. Any other path is lost.
-/

namespace DocSite

open DocSite.Text DocSite.Toml

namespace SiteConfig

/-! ## The record as it is written -/

/-- The record of a document before a path that its address carries is moved. -/
def written? (text : String) : Option SiteConfig := do
  let entries ← Toml.parse? text
  let (c, _) ← (decodeDocument decode entries).toOption
  return c

/-- Reading a document is reading what is written, and then moving the path. -/
theorem written_of_parse {text : String} {r : SiteReading} (h : parse text = .ok r) :
    ∃ written, written? text = some written ∧ written.Settled ∧
      r.config = written.syncBase.1 := by
  unfold parse at h
  split at h
  · simp at h
  · rename_i entries hentries
    split at h
    · simp at h
    · rename_i c unknown hdecode
      obtain rfl := Except.ok.inj h
      refine ⟨c, ?_, yields_settled _ _ _ _ _ (doubles_of_parse? hentries) hdecode, rfl⟩
      simp [written?, hentries, hdecode, Except.toOption]

/-! ## Moving the path -/

theorem syncBase_of_no_path {c : SiteConfig} {site : SiteOrigin} (hsite : c.site = some site)
    (hpath : site.path = "") : c.syncBase.1 = c := by
  simp [syncBase, hsite, hpath]

theorem syncBase_of_error {c : SiteConfig} {site : SiteOrigin} (hsite : c.site = some site)
    {e : AddressError} (hbase : BasePath.parse site.path = .error e) : c.syncBase.1 = c := by
  simp only [syncBase, hsite, hbase]
  split <;> rfl

theorem syncBase_of_set {c : SiteConfig} {site : SiteOrigin} (hsite : c.site = some site)
    (hset : c.base.isRoot = false) : c.syncBase.1 = c := by
  simp [syncBase, hsite, hset]

theorem syncBase_of_ok {c : SiteConfig} {site : SiteOrigin} (hsite : c.site = some site)
    (hroot : c.base.isRoot = true) (hpath : site.path ≠ "") {base : BasePath}
    (hbase : BasePath.parse site.path = .ok base) :
    c.syncBase.1 = { c with base, site := (SiteOrigin.parse site.origin).toOption } := by
  have hmove : (!c.base.isRoot || site.path.isEmpty) = false := by simpa [hroot] using hpath
  simp [syncBase, hsite, hmove, hbase]

/-- A record that is read without errors has no base beside a path in its address. -/
theorem isRoot_of_ok {c : SiteConfig} (hok : c.syncBase.1.diagnostics.errors = [])
    {site : SiteOrigin} (hsite : c.site = some site) (hpath : site.path ≠ "") :
    c.base.isRoot = true := by
  by_contra hset
  -- Such a record stays as it is, and the conflict is reported.
  rw [syncBase_of_set hsite (by simpa using hset)] at hok
  simp only [diagnostics, Diagnostics.errors_append_eq_nil_iff, checkSite, hsite,
    Diagnostics.errors_when_eq_nil_iff] at hok
  have hconflict := hok.1.1.1.1.1
  simp [hpath, hset] at hconflict

end SiteConfig

/-- The bare origin of a site reads as the site without its user and path. -/
theorem SiteOrigin.parse_origin {s : String} {site : SiteOrigin} (h : parse s = .ok site)
    (horigin : site.url.OriginReadsBack) : parse site.origin = .ok site.bare := by
  obtain ⟨-, -, -, hquery, hfragment⟩ := of_parse h
  have htrim : trim site.origin = site.origin := by
    apply String.ext
    rw [toList_trim]
    exact trimBoth_of_not_blank fun c hc => (isGraphic_origin h c hc).not_blank
  exact parse_of_parse? h htrim horigin rfl rfl hquery hfragment

@[simp] theorem SiteOrigin.origin_bare (site : SiteOrigin) : site.bare.origin = site.origin := rfl

namespace SiteConfig

/-! ## The canonical URL -/

theorem canonicalUrl_of_site {c : SiteConfig} {site : SiteOrigin} (hsite : c.site = some site) :
    c.canonicalUrl = some (site.origin ++ c.base.text ++ "/") := by
  rw [canonicalUrl, hsite]
  rfl

/-- A path that is a base path becomes the path of the canonical URL. -/
theorem canonicalUrl_syncBase_of_ok {c : SiteConfig} (hsettled : c.Settled) {site : SiteOrigin}
    (hsite : c.site = some site) (horigin : site.url.OriginReadsBack)
    (hroot : c.base.isRoot = true) (hpath : site.path ≠ "") {base : BasePath}
    (hbase : BasePath.parse site.path = .ok base) :
    c.syncBase.1.canonicalUrl = some (site.origin ++ "/" ++ site.path ++ "/") := by
  obtain ⟨s, hs⟩ := hsettled.site site hsite
  have hmoved : c.syncBase.1.site = some site.bare := by
    rw [syncBase_of_ok hsite hroot hpath hbase, SiteOrigin.parse_origin hs horigin]
    rfl
  have hbaseText : c.syncBase.1.base.text = "/" ++ site.path := by
    rw [syncBase_of_ok hsite hroot hpath hbase]
    exact SiteOrigin.text_of_path hs (by simpa using hpath) hbase
  rw [canonicalUrl_of_site hmoved, hbaseText, SiteOrigin.origin_bare]
  simp only [String.append_assoc]

/-- A path that is no base path is missing from the canonical URL. -/
theorem canonicalUrl_syncBase_of_error {c : SiteConfig} {site : SiteOrigin}
    (hsite : c.site = some site) (hroot : c.base.isRoot = true) {e : AddressError}
    (hbase : BasePath.parse site.path = .error e) :
    c.syncBase.1.canonicalUrl = some (site.origin ++ "/") := by
  have htext : c.base.text = "" := by simpa [BasePath.isRoot] using hroot
  rw [syncBase_of_error hsite hbase, canonicalUrl_of_site hsite, htext, String.append_empty]

/-- A URL with a path in front of its last slash is longer than one without. -/
theorem append_path_ne {origin path : String} (hpath : path ≠ "") :
    origin ++ "/" ≠ origin ++ "/" ++ path ++ "/" := by
  intro h
  have hlength := congrArg String.length h
  have hpos : path.length ≠ 0 := by simpa using hpath
  simp only [String.length_append] at hlength
  omega

/-- The canonical URL of a record that was read without errors. Without a path in the address it
is the origin and the base. A path in the address is the path of the canonical URL exactly when it
is a base path; any other path is missing from it. -/
theorem canonicalUrl_of_parse {text : String} {r : SiteReading} {written : SiteConfig}
    {site : SiteOrigin} (h : parse text = .ok r) (hok : r.config.diagnostics.errors = [])
    (hwritten : written? text = some written) (hsite : written.site = some site)
    (horigin : site.url.OriginReadsBack) :
    (site.path = "" → r.config.canonicalUrl = some (site.origin ++ r.config.base.text ++ "/")) ∧
    (site.path ≠ "" →
      (r.config.canonicalUrl = some (site.origin ++ "/" ++ site.path ++ "/") ↔
        ∃ base, BasePath.parse site.path = .ok base) ∧
      ((∃ e, BasePath.parse site.path = .error e) →
        r.config.canonicalUrl = some (site.origin ++ "/"))) := by
  obtain ⟨written', hwritten', hsettled, hr⟩ := written_of_parse h
  obtain rfl : written' = written := Option.some.inj (hwritten'.symm.trans hwritten)
  rw [hr] at hok ⊢
  refine ⟨fun hempty => ?_, fun hpath => ?_⟩
  · rw [syncBase_of_no_path hsite hempty]
    exact canonicalUrl_of_site hsite
  · have hroot := isRoot_of_ok hok hsite hpath
    refine ⟨⟨fun hurl => ?_, fun ⟨base, hbase⟩ => ?_⟩, fun ⟨e, he⟩ => ?_⟩
    · cases hparse : BasePath.parse site.path with
      | ok base => exact ⟨base, rfl⟩
      | error e =>
        rw [canonicalUrl_syncBase_of_error hsite hroot hparse] at hurl
        exact absurd (Option.some.inj hurl) (append_path_ne hpath)
    · exact canonicalUrl_syncBase_of_ok hsettled hsite horigin hroot hpath hbase
    · exact canonicalUrl_syncBase_of_error hsite hroot he

/-! ## Two documents -/

/-- Whether a document can be read, and what is written and the record that is read from it pass
a test. -/
def passes (text : String) (test : SiteConfig → SiteConfig → Bool) : Bool :=
  match parse text, written? text with
  | .ok r, some written => test written r.config
  | _, _ => false

theorem exists_of_passes {text : String} {test : SiteConfig → SiteConfig → Bool}
    (h : passes text test = true) : ∃ r written, parse text = .ok r ∧
      written? text = some written ∧ test written r.config = true := by
  unfold passes at h
  split at h
  · rename_i r written hr hwritten
    exact ⟨r, written, hr, hwritten, h⟩
  · simp at h

/-- An address with a path. -/
def docsSite : SiteOrigin :=
  ⟨{ scheme := "https", host := some (.domain "a.io"), path := "/docs/" }⟩

theorem canonicalUrl_of_parse_docs : ∃ r, parse "site = 'https://a.io/docs/'" = .ok r ∧
    r.config.canonicalUrl = some "https://a.io/docs/" := by
  have h : passes "site = 'https://a.io/docs/'" (fun written c =>
      decide (written.site = some docsSite ∧ c.diagnostics.errors = [])) = true := by
    decide +kernel
  obtain ⟨r, written, hr, hwritten, htest⟩ := exists_of_passes h
  obtain ⟨hsite, hok⟩ := of_decide_eq_true htest
  have horigin : docsSite.url.OriginReadsBack := by
    unfold Url.OriginReadsBack
    decide +kernel
  have hpath : docsSite.path = "docs" := by decide +kernel
  have hbase : BasePath.parse docsSite.path = .ok ⟨"/docs"⟩ := by decide +kernel
  have hurl := (((canonicalUrl_of_parse hr hok hwritten hsite horigin).2 (by simp [hpath])).1).2
    ⟨_, hbase⟩
  refine ⟨r, hr, hurl.trans ?_⟩
  rw [hpath]
  decide +kernel

/-- An address whose path has an empty segment. -/
def gapSite : SiteOrigin :=
  ⟨{ scheme := "https", host := some (.domain "a.io"), path := "/a//b" }⟩

/-- A path with an empty segment is dropped without an error. -/
theorem canonicalUrl_drops_path : ∃ r written, parse "site = 'https://a.io/a//b'" = .ok r ∧
    r.config.diagnostics.errors = [] ∧ written? "site = 'https://a.io/a//b'" = some written ∧
    written.site = some gapSite ∧ gapSite.path = "a//b" ∧
    r.config.canonicalUrl = some "https://a.io/" ∧
    r.config.canonicalUrl ≠ some (gapSite.origin ++ "/" ++ gapSite.path ++ "/") := by
  have h : passes "site = 'https://a.io/a//b'" (fun written c =>
      decide (c.diagnostics.errors = [] ∧ written.site = some gapSite ∧
        c.canonicalUrl = some "https://a.io/")) = true := by
    decide +kernel
  obtain ⟨r, written, hr, hwritten, htest⟩ := exists_of_passes h
  obtain ⟨hok, hsite, hurl⟩ := of_decide_eq_true htest
  refine ⟨r, written, hr, hok, hwritten, hsite, by decide +kernel, hurl, ?_⟩
  rw [hurl]
  decide +kernel

end SiteConfig

end DocSite
