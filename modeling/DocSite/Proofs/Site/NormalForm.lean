import DocSite.Proofs.Site.RoundTrip

/-!
# The text of a record is its normal form

  Reading the text of a record may give another record: users and surplus slashes
  of a bare address are lost, and constants come in the order in which they are
  written. None of this shows in the text. Whatever document a record was read
  from, its text is read and written again without a change.
-/

namespace DocSite

open DocSite.Text DocSite.Toml

/-- An address that is read back is displayed like the address that was written. -/
theorem SiteOrigin.display_again (site : SiteOrigin) : site.again.display = site.display := by
  by_cases hempty : site.path.isEmpty = true
  · -- Only the origin is displayed, and the bare address has the same one.
    have hbare : site.bare.path.isEmpty = true := by simp
    rw [again, if_pos hempty, display, display, if_pos hempty, if_pos hbare]
    rfl
  · rw [again, if_neg hempty]

namespace SiteConfig

/-- The record that reading the text of a record gives. -/
def reread (c : SiteConfig) : SiteConfig :=
  { c with site := c.site.map SiteOrigin.again, defines := c.defines.arranged }

/-- The text of a record as reading leaves it reads again, as far as addresses read back. -/
theorem parse_toTomlText_eq {c : SiteConfig} (hsettled : c.Settled) (hsynced : c.Synced)
    (hback : ∀ site, c.site = some site → site.url.ReadsBack)
    (horigin : ∀ site, c.site = some site → site.url.OriginReadsBack) :
    parse c.toTomlText = .ok { config := c.reread, unknownKeys := [], log := "" } := by
  have hsite : ReadsSite c.site (c.site.map SiteOrigin.again) := by
    cases hc : c.site with
    | none => rfl
    | some site =>
      obtain ⟨s, hs⟩ := hsettled.site site hc
      exact ⟨_, rfl, SiteOrigin.parse_display hs (hback site hc) (horigin site hc)⟩
  have harranged : ({ c with defines := c.defines.arranged } : SiteConfig).Settled :=
    ⟨hsettled.site, hsettled.base, hsettled.integrations, hsettled.server⟩
  have hreads := reads_toToml harranged hsite
  rw [← arrange_toToml] at hreads
  exact parse_of_reads (parse?_toTomlText hsettled) hreads (synced_again hsynced)

/-- The address that is read back leaves no trace in the table of a record. -/
theorem toToml_again (c : SiteConfig) :
    ({ c with site := c.site.map SiteOrigin.again } : SiteConfig).toToml = c.toToml := by
  cases hc : c.site with
  | none => simp [toToml, hc]
  | some site => simp [toToml, hc, SiteOrigin.display_again]

/-- The record that is read back has the same text. -/
theorem toTomlText_reread (c : SiteConfig) : c.reread.toTomlText = c.toTomlText := by
  have hwritten := arrange_toToml { c with site := c.site.map SiteOrigin.again }
  calc c.reread.toTomlText
      = render (arrange ({ c with site := c.site.map SiteOrigin.again } : SiteConfig).toToml) := by
        rw [hwritten]
        rfl
    _ = render c.toToml := by rw [render_arrange, toToml_again]

/-- The text of a record that was read from a document can be read, and the record that is read
from it has just this text. -/
theorem toTomlText_of_parse_toTomlText {text : String} {r : SiteReading} (h : parse text = .ok r)
    (hback : ∀ site, r.config.site = some site → site.url.ReadsBack)
    (horigin : ∀ site, r.config.site = some site → site.url.OriginReadsBack) :
    ∃ again, parse r.config.toTomlText = .ok again ∧
      again.config.toTomlText = r.config.toTomlText := by
  obtain ⟨hsettled, hsynced⟩ := of_parse h
  exact ⟨_, parse_toTomlText_eq hsettled hsynced hback horigin, toTomlText_reread r.config⟩

/-- A document with all that the record loses on the way: a user and surplus slashes in the
address, a priority that is no number, and a computed constant before an expression. -/
def unsettledText : String :=
  "site = 'https://me:pw@a.io//'\nvite.define.A.builtin = 'build-date'\nvite.define.B = '1'\n" ++
    "[[integrations]]\nname = 'sitemap'\npriority = nan\n"

/-- The address of that document. -/
def unsettledSite : SiteOrigin :=
  ⟨{ scheme := "https", username := "me", password := "pw", host := some (.domain "a.io"),
     path := "//" }⟩

/-- The text of that document's record is read and written again without a change. -/
theorem toTomlText_of_parse_toTomlText_unsettled : ∃ r again, parse unsettledText = .ok r ∧
    r.config.site = some unsettledSite ∧ parse r.config.toTomlText = .ok again ∧
    again.config.toTomlText = r.config.toTomlText := by
  have h : hasSite unsettledText unsettledSite = true := by decide +kernel
  obtain ⟨r, hr, hsite⟩ := exists_of_hasSite h
  have hback : unsettledSite.url.ReadsBack := by
    unfold Url.ReadsBack
    decide +kernel
  have horigin : unsettledSite.url.OriginReadsBack := by
    unfold Url.OriginReadsBack
    decide +kernel
  have honly : ∀ site, r.config.site = some site → site = unsettledSite := fun site hs =>
    Option.some.inj (hs.symm.trans hsite)
  obtain ⟨again, hagain, htext⟩ := toTomlText_of_parse_toTomlText hr
    (fun site hs => honly site hs ▸ hback) (fun site hs => honly site hs ▸ horigin)
  exact ⟨r, again, hr, hsite, hagain, htext⟩

end SiteConfig

end DocSite
