import DocSite.Proofs.Links
import DocSite.Proofs.Url.Graphic
import DocSite.Site.Config

/-!
# Public URLs

  The public URL of a link is its path below the base, behind the origin if the
  site has one. A link of the site always becomes a path with one slash in front,
  and such a path is never taken for a link that leaves the site; a URL behind an
  origin always is, because it starts with a scheme. So each link takes one of two
  ways, and what comes out of either way stays as it is when it goes in again.
-/

namespace DocSite

open DocSite.Text

/-! ## Origins -/

namespace SiteOrigin

/-- What the origin of a site starts with. -/
theorem origin_starts {s : String} {site : SiteOrigin} (h : parse s = .ok site) :
    "http://".toList <+: site.origin.toList ∨ "https://".toList <+: site.origin.toList := by
  obtain ⟨-, hscheme | hscheme, -⟩ := of_parse h
  · left
    rw [origin, Url.originText, hscheme, String.append_assoc, String.toList_append]
    exact List.prefix_append _ _
  · right
    rw [origin, Url.originText, hscheme, String.append_assoc, String.toList_append]
    exact List.prefix_append _ _

/-- Behind an origin every text is a link that leaves the site. -/
theorem leavesSite_origin {s : String} {site : SiteOrigin} (h : parse s = .ok site)
    (tail : List Char) : LeavesSite (site.origin.toList ++ tail) := by
  rcases origin_starts h with ⟨rest, horigin⟩ | ⟨rest, horigin⟩
  · have hhttp : IsSchemeText "http".toList := (isScheme_iff _).1 (by decide)
    refine .inr (.inr ⟨"http".toList, "//".toList ++ rest ++ tail, ?_, hhttp⟩)
    rw [← horigin]
    simp
  · have hhttps : IsSchemeText "https".toList := (isScheme_iff _).1 (by decide)
    refine .inr (.inr ⟨"https".toList, "//".toList ++ rest ++ tail, ?_, hhttps⟩)
    rw [← horigin]
    simp

end SiteOrigin

/-! ## Paths of links -/

namespace BasePath

/-- A link of the site becomes a path with exactly one slash in front. -/
theorem exists_joinChars_eq_slash {base link : List Char} (hbase : IsBase base)
    (h : ¬LeavesSite (trimBoth link)) :
    ∃ bare, joinChars base link = '/' :: bare ∧ ∀ c ∈ bare.head?, c ≠ '/' := by
  rcases hbase with hroot | ⟨name, hname, hne, hhead⟩
  · subst hroot
    exact ⟨bareLink link, joinChars_root h, head_bareLink link⟩
  · subst hname
    obtain ⟨tail, -, hjoin⟩ := joinChars_under name h
    refine ⟨name ++ tail, hjoin, ?_⟩
    intro c hc
    cases name with
    | nil => exact absurd rfl hne
    | cons first rest =>
      apply hhead c
      simpa using hc

/-- The path of a link that is nothing but slashes is that of the first page. -/
theorem joinChars_of_bare_nil {base link : List Char} (hbase : IsBase base)
    (hstays : ¬LeavesSite (trimBoth link)) (hbare : bareLink link = []) :
    joinChars base link = base ++ ['/'] := by
  rcases hbase with hroot | ⟨name, hname, hne, -⟩
  · subst hroot
    rw [joinChars_root hstays, hbare]
    rfl
  · subst hname
    obtain ⟨tail, htail, hjoin⟩ := joinChars_under name hstays
    rw [hbare] at htail
    cases htail with
    | inside hlink _ =>
      -- A base that is not the root is longer than a slash.
      have hlength := congrArg List.length hlink
      have hpos := List.length_pos_iff.2 hne
      simp only [List.length_cons, List.length_nil, List.length_append] at hlength
      omega
    | outside _ => exact hjoin

end BasePath

/-! ## The two ways of a link -/

namespace SiteConfig

variable {c : SiteConfig} {site : SiteOrigin}

theorem pageUrl_of_no_site (hsite : c.site = none) (link : String) :
    c.pageUrl link = c.base.join link := by
  simp [pageUrl, hsite]

/-- A path with one slash in front is put behind the origin. -/
theorem pageUrl_of_slash (hsite : c.site = some site) {link : String} {bare : List Char}
    (hpath : (c.base.join link).toList = '/' :: bare) (hhead : ∀ x ∈ bare.head?, x ≠ '/') :
    c.pageUrl link = site.origin ++ c.base.join link := by
  simp only [pageUrl, hsite, hpath]
  split
  · rename_i more htwo
    have hbare : bare = '/' :: more := by simpa using htwo
    exact absurd rfl (hhead '/' (by simp [hbare]))
  · rfl
  · rename_i hnone
    exact absurd rfl (hnone bare)

/-- Any other text is given as it is. -/
theorem pageUrl_of_no_slash {link : String}
    (h : ∀ bare, (c.base.join link).toList = '/' :: bare → '/' ∈ bare.head?) :
    c.pageUrl link = c.base.join link := by
  simp only [pageUrl]
  split
  · rfl
  · split
    · rfl
    · rename_i rest hone hpath
      have hslash := h rest hpath
      cases rest with
      | nil => simp at hslash
      | cons first more =>
        have hfirst : first = '/' := by simpa using hslash
        exact (hone more (by rw [hfirst])).elim
    · rfl

/-- A link that leaves the site is trimmed, whatever the record says. -/
theorem pageUrl_of_leaves {link : String} (h : LeavesSite (trim link).toList) :
    c.pageUrl link = trim link := by
  have hjoin : c.base.join link = trim link := by
    rw [toList_trim] at h
    rw [BasePath.join, BasePath.joinChars_external h]
    rfl
  rw [← hjoin] at h ⊢
  apply pageUrl_of_no_slash
  intro bare hpath
  by_contra hslash
  -- One slash in front would make it a link of the site.
  rw [hpath] at h
  refine not_leavesSite_slash ?_ h
  intro x hx hxslash
  exact hslash (hxslash ▸ hx)

/-- A link of the site is put behind the origin and the base. -/
theorem pageUrl_of_stays (hbase : BasePath.IsBase c.base.text.toList) (hsite : c.site = some site)
    {link : String} (h : ¬LeavesSite (trim link).toList) :
    c.pageUrl link = site.origin ++ c.base.join link := by
  rw [toList_trim] at h
  obtain ⟨bare, hjoin, hhead⟩ := BasePath.exists_joinChars_eq_slash hbase h
  have hpath : (c.base.join link).toList = '/' :: bare := by
    rw [BasePath.join, String.toList_ofList, hjoin]
  exact pageUrl_of_slash hsite hpath hhead

/-- The URL of a link of the site leaves the site, and has no blanks at its ends. -/
theorem pageUrl_leaves (hbase : BasePath.IsBase c.base.text.toList) {s : String}
    (hparse : SiteOrigin.parse s = .ok site) (link : String) :
    LeavesSite (site.origin ++ c.base.join link).toList ∧
      trim (site.origin ++ c.base.join link) = site.origin ++ c.base.join link := by
  constructor
  · rw [String.toList_append]
    exact SiteOrigin.leavesSite_origin hparse _
  · have hends := ends_trimBoth (c.base.join link).toList
    have htrim : trimBoth (c.base.join link).toList = (c.base.join link).toList := by
      rw [BasePath.join, String.toList_ofList]
      exact (BasePath.inPlace_joinChars hbase).1
    rw [htrim] at hends
    have horigin : ∀ x ∈ site.origin.toList, isBlank x = false := fun x hx =>
      (SiteOrigin.isGraphic_origin hparse x hx).not_blank
    apply String.ext
    rw [toList_trim, String.toList_append]
    -- The ends are those of the origin or of the path, and neither has a blank there.
    apply trimBoth_of_ends
    · intro x hx
      rw [List.head?_append, Option.mem_def, Option.or_eq_some_iff] at hx
      rcases hx with hx | ⟨-, hx⟩
      · exact horigin x (List.mem_of_mem_head? hx)
      · exact hends.1 x hx
    · intro x hx
      rw [List.getLast?_append, Option.mem_def, Option.or_eq_some_iff] at hx
      rcases hx with hx | ⟨-, hx⟩
      · exact hends.2 x hx
      · exact horigin x (List.mem_of_mem_getLast? hx)

/-- The canonical URL is the public URL of every link to the first page. -/
theorem canonicalUrl_eq_pageUrl (hbase : BasePath.IsBase c.base.text.toList)
    (hsite : c.site = some site) {link : String} (hstays : ¬LeavesSite (trim link).toList)
    (hbare : bareLink link.toList = []) : c.canonicalUrl = some (c.pageUrl link) := by
  have hjoin : c.base.join link = c.base.text ++ "/" := by
    rw [toList_trim] at hstays
    apply String.ext
    rw [BasePath.join, BasePath.joinChars_of_bare_nil hbase hstays hbare]
    simp
  rw [pageUrl_of_stays hbase hsite hstays, hjoin, canonicalUrl, hsite, Option.map_some,
    SiteOrigin.canonicalUrl, String.append_assoc]

/-- A public URL is its own public URL. -/
theorem pageUrl_pageUrl (hbase : BasePath.IsBase c.base.text.toList)
    (hsite : ∀ site, c.site = some site → ∃ s, SiteOrigin.parse s = .ok site) (link : String) :
    c.pageUrl (c.pageUrl link) = c.pageUrl link := by
  by_cases hleaves : LeavesSite (trim link).toList
  · -- What leaves the site is trimmed already the second time.
    have htrim : trim (trim link) = trim link := by
      apply String.ext
      rw [toList_trim, toList_trim, trimBoth_trimBoth]
    rw [pageUrl_of_leaves hleaves, pageUrl_of_leaves (htrim.symm ▸ hleaves), htrim]
  · cases hc : c.site with
    | none =>
      rw [pageUrl_of_no_site hc, pageUrl_of_no_site hc]
      simp only [BasePath.join, String.toList_ofList, BasePath.joinChars_joinChars hbase]
    | some site =>
      -- The URL goes in again as a link that leaves the site.
      obtain ⟨s, hs⟩ := hsite site hc
      obtain ⟨hout, htrim⟩ := pageUrl_leaves hbase hs link
      rw [pageUrl_of_stays hbase hc hleaves, pageUrl_of_leaves (htrim.symm ▸ hout), htrim]

/-! ## Public URLs agree -/

/-- The public URLs of a record whose base and address were read. With an address, the canonical
URL is the public URL of the empty link and of `/`, and a link of the site is put behind the
origin; without one it stays a path. Links that leave the site are trimmed and nothing else, and
a public URL is its own public URL. -/
theorem public_urls_agree {s : String} (hbase : BasePath.parse s = .ok c.base)
    (hsite : ∀ site, c.site = some site → ∃ t, SiteOrigin.parse t = .ok site) (link : String) :
    (∀ site, c.site = some site →
      (∃ url, c.canonicalUrl = some url ∧ url = c.pageUrl "" ∧ url = c.pageUrl "/") ∧
      (¬LeavesSite (trim link).toList → c.pageUrl link = site.origin ++ c.base.join link)) ∧
    (c.site = none → c.pageUrl link = c.base.join link) ∧
    (LeavesSite (trim link).toList → c.pageUrl link = trim link) ∧
    c.pageUrl (c.pageUrl link) = c.pageUrl link := by
  have hkept := BasePath.isBase_of_parse hbase
  refine ⟨?_, ?_, ?_, pageUrl_pageUrl hkept hsite link⟩
  · intro site hc
    refine ⟨?_, pageUrl_of_stays hkept hc⟩
    -- The two links that stand for the front page stay in the site.
    have hempty : ¬LeavesSite (trim "").toList := by
      rw [← isExternal_iff]
      decide
    have hslash : ¬LeavesSite (trim "/").toList := by
      rw [← isExternal_iff]
      decide
    have hfirst := canonicalUrl_eq_pageUrl hkept hc hempty (by decide)
    have hsecond := canonicalUrl_eq_pageUrl hkept hc hslash (by decide)
    exact ⟨c.pageUrl "", hfirst, rfl, Option.some.inj (hfirst.symm.trans hsecond)⟩
  · intro hc
    exact pageUrl_of_no_site hc link
  · intro hleaves
    exact pageUrl_of_leaves hleaves

/-- An address with a port. -/
def portedSite : SiteOrigin :=
  ⟨{ scheme := "https", host := some (.domain "a.io"), port := some 8443, path := "/" }⟩

/-- A record with that address, below a base with a colon in it. -/
def portedConfig : SiteConfig where
  site := some portedSite
  base := ⟨"/a:b"⟩

/-- The first segment of the link only looks like the base, and no colon ends a scheme but that of
the origin. -/
theorem public_urls_agree_ported : BasePath.parse "a:b/" = .ok portedConfig.base ∧
    SiteOrigin.parse "https://a.io:8443" = .ok portedSite ∧
    ¬LeavesSite (trim " /a:bc?q ").toList ∧
    portedConfig.pageUrl " /a:bc?q " = "https://a.io:8443/a:b/a:bc?q" ∧
    portedConfig.pageUrl "https://a.io:8443/a:b/a:bc?q" = "https://a.io:8443/a:b/a:bc?q" := by
  have hbase : BasePath.parse "a:b/" = .ok portedConfig.base := by decide
  have horigin : SiteOrigin.parse "https://a.io:8443" = .ok portedSite := by decide +kernel
  have hsite : ∀ site, portedConfig.site = some site → ∃ t, SiteOrigin.parse t = .ok site := by
    intro site hc
    exact ⟨_, Option.some.inj hc ▸ horigin⟩
  have hstays : ¬LeavesSite (trim " /a:bc?q ").toList := by
    rw [← isExternal_iff]
    decide
  obtain ⟨haddress, -, -, htwice⟩ := public_urls_agree hbase hsite " /a:bc?q "
  have hurl : portedConfig.pageUrl " /a:bc?q " = "https://a.io:8443/a:b/a:bc?q" := by
    rw [(haddress portedSite rfl).2 hstays]
    decide +kernel
  rw [hurl] at htwice
  exact ⟨hbase, horigin, hstays, hurl, htwice⟩

end SiteConfig

end DocSite
