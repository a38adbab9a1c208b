import DocSite.Proofs.Diagnostics
import DocSite.Proofs.Links
import DocSite.Site.BuildOutput

/-!
# The address of the assets

  The assets of a site are served from their directory under the base, but their
  address is made by joining the name of the directory to the base as if it were a
  link. It comes out right exactly when the name survives that: a link loses the
  blanks at its front, it is left alone if it names a scheme, and it is not put
  under the base a second time.
-/

namespace DocSite

open DocSite.Text

namespace BasePath

variable {base link : List Char}

/-! ## Links that get the base in front of them -/

/-- Whether a path is the base or lies under it. -/
def LiesUnder (base path : List Char) : Prop :=
  ∃ tail, path = base ++ tail ∧ ContinuesBase tail

/-- Trimming only takes characters off. -/
theorem length_bareLink_le (link : List Char) :
    (bareLink link).length ≤ (trimBoth link).length ∧ (trimBoth link).length ≤ link.length := by
  constructor
  · exact (List.dropWhile_sublist _).length_le
  · obtain ⟨front, back, -, -, hlink⟩ := exists_trimBoth link
    have hlength := congrArg List.length hlink
    rw [List.length_append, List.length_append] at hlength
    omega

/-- A link from which nothing is taken off has no blanks around it. -/
theorem trimBoth_of_bareLink (h : bareLink link = link) : trimBoth link = link := by
  obtain ⟨hdrop, -⟩ := length_bareLink_le link
  obtain ⟨front, back, -, -, hlink⟩ := exists_trimBoth link
  have hlength := congrArg List.length hlink
  rw [h] at hdrop
  rw [List.length_append, List.length_append] at hlength
  have hfront : front = [] := List.length_eq_zero_iff.1 (by omega)
  have hback : back = [] := List.length_eq_zero_iff.1 (by omega)
  rw [hfront, hback, List.nil_append, List.append_nil] at hlink
  exact hlink.symm

/-- A base that was read does not end with a slash. -/
theorem getLast?_of_parse {s : String} {b : BasePath} (h : parse s = .ok b) :
    b.text.toList.getLast? ≠ some '/' := by
  obtain ⟨-, rfl⟩ | ⟨hne, htext, hcheck⟩ := of_parse h
  · decide
  · obtain ⟨first, rest, hinner⟩ := List.exists_cons_of_ne_nil hne
    have hlast := (body_ends hne hcheck).2
    rw [hinner] at hlast
    rw [htext, hinner, List.getLast?_cons_cons]
    exact hlast

/-- A link is joined by writing it behind the base and a slash exactly when it stays in the site,
nothing is taken off its front, and it does not lie under the base. -/
theorem joinChars_eq_append_iff (hbase : IsBase base) :
    joinChars base link = base ++ '/' :: link ↔
      ¬LeavesSite (trimBoth link) ∧ bareLink link = link ∧
        (base = [] ∨ ¬LiesUnder base ('/' :: link)) := by
  have hlength := length_bareLink_le link
  -- A link that leaves the site stays as it is, and so does not get longer.
  by_cases hleaves : LeavesSite (trimBoth link)
  · refine iff_of_false ?_ (fun h => h.1 hleaves)
    intro h
    rw [joinChars_external hleaves] at h
    have hsame := congrArg List.length h
    rw [List.length_append, List.length_cons] at hsame
    omega
  · rw [and_iff_right hleaves]
    rcases hbase with rfl | ⟨name, rfl, hne, -⟩
    · rw [joinChars_root hleaves, List.nil_append, List.cons_inj_right]
      exact ⟨fun h => ⟨h, .inl rfl⟩, fun h => h.1⟩
    · obtain ⟨tail, htail, hjoin⟩ := joinChars_under name hleaves
      rw [hjoin, List.append_cancel_left_eq]
      cases htail with
      | inside hbare hcontinues =>
        -- The link is there already, so it is too short to come a second time.
        refine iff_of_false ?_ ?_
        · intro h
          have hsame := congrArg List.length hbare
          rw [h, List.length_append, List.length_cons, List.length_cons, List.length_cons] at hsame
          omega
        · intro h
          obtain ⟨hbare', hunder⟩ := h
          rw [hbare'] at hbare
          exact hunder.resolve_left (List.cons_ne_nil _ _) ⟨tail, hbare, hcontinues⟩
      | outside houtside =>
        -- The text of the link is written behind the base, without what was taken off its front.
        rw [List.cons_inj_right]
        constructor
        · intro h
          refine ⟨h, .inr ?_⟩
          intro hunder
          obtain ⟨tail, htail, hcontinues⟩ := hunder
          rw [h] at houtside
          exact houtside tail htail hcontinues
        · exact fun h => h.1

end BasePath

/-! ## Names of asset directories -/

/-- A name of an asset directory: one segment of a URL path, with blanks around it at most. -/
structure IsAssetName (name : List Char) : Prop where
  ne_nil : name ≠ []
  no_slash : '/' ∉ name
  fits : ∀ c ∈ trimBoth name, isPathChar c = true ∨ c = '%'

/-- What stands before a character of a text with a slash behind it stands in the text, unless that
character is the slash. -/
theorem split_slash {text front back : List Char} {c : Char}
    (h : text ++ ['/'] = front ++ c :: back) :
    (c = '/' ∧ text = front) ∨ ∃ back', back = back' ++ ['/'] ∧ text = front ++ c :: back' := by
  rcases List.eq_nil_or_concat back with rfl | ⟨back', last, rfl⟩
  · obtain ⟨htext, hc⟩ := List.append_inj' h rfl
    exact .inl ⟨(List.cons.inj hc).1.symm, htext⟩
  · rw [List.concat_eq_append, ← List.cons_append, ← List.append_assoc] at h
    obtain ⟨htext, hlast⟩ := List.append_inj' h rfl
    refine .inr ⟨back', ?_, htext⟩
    rw [List.concat_eq_append, ← hlast]

namespace IsAssetName

variable {name : List Char}

/-- A base path without slashes is one segment. -/
theorem fits_of_parse {s : String} {base : BasePath} (h : BasePath.parse s = .ok base)
    (hslash : '/' ∉ s.toList) : ∀ c ∈ trimBoth s.toList, isPathChar c = true ∨ c = '%' := by
  -- Without a slash the text is one segment, and trimming is all that is done before it is checked.
  obtain ⟨front, back, -, -, hs⟩ := exists_trimBoth s.toList
  have hslash' : '/' ∉ trimBoth s.toList := by
    intro hmem
    apply hslash
    rw [hs]
    simp [hmem]
  have hinner : BasePath.inner s = trimBoth s.toList := by
    have hfirst : dropFirst '/' (trimBoth s.toList) = trimBoth s.toList := by
      cases htrim : trimBoth s.toList with
      | nil => rfl
      | cons c rest =>
        rw [htrim, List.mem_cons, not_or] at hslash'
        rw [dropFirst, if_neg (Ne.symm hslash'.1)]
    rw [BasePath.inner, hfirst]
    apply dropLast_of_getLast?
    intro hlast
    exact hslash' (List.mem_of_getLast? hlast)
  intro c hc
  obtain ⟨hempty, -⟩ | ⟨-, -, hcheck⟩ := BasePath.of_parse h
  · rw [← hinner, hempty] at hc
    cases hc
  · rw [hinner, splitOn_of_not_mem hslash'] at hcheck
    exact (of_checkSegment (hcheck _ (List.mem_singleton.2 rfl))).2 c hc

/-- The characters that start a query or a fragment have no place in a name that starts without a
blank. -/
theorem not_mem (h : IsAssetName name) (hblank : ∀ c ∈ name.head?, isBlank c = false) {c : Char}
    (hc : isBlank c = false) (hpath : isPathChar c = false) (hpercent : c ≠ '%') : c ∉ name := by
  intro hmem
  obtain ⟨front, back, rfl⟩ := List.append_of_mem hmem
  obtain ⟨rest, hrest⟩ := exists_trimBoth_append_cons hblank hc
  have hfits := h.fits c (by rw [hrest]; simp)
  rw [hpath] at hfits
  exact hfits.elim (fun h => nomatch h) hpercent

theorem head_append (h : IsAssetName name) (rest : List Char) :
    (name ++ rest).head? = name.head? := by
  rw [List.head?_append_of_ne_nil _ h.ne_nil]

/-- The name with its slash is a bare link unless it starts with a blank. -/
theorem bareLink_eq_iff (h : IsAssetName name) :
    bareLink (name ++ ['/']) = name ++ ['/'] ↔ ∀ c ∈ name.head?, isBlank c = false := by
  constructor
  · intro hbare c hc
    apply (ends_trimBoth (name ++ ['/'])).1 c
    rw [BasePath.trimBoth_of_bareLink hbare, h.head_append]
    exact hc
  · intro hblank
    -- A slash is no blank, so only the front of the name matters.
    have htrim : trimBoth (name ++ ['/']) = name ++ ['/'] := by
      apply trimBoth_of_ends
      · rw [h.head_append]
        exact hblank
      · intro c hc
        have hc' : '/' = c := by simpa using hc
        rw [← hc']
        decide
    have hslash : ∀ c ∈ (name ++ ['/']).head?, (c == '/') = false := by
      intro c hc
      rw [h.head_append] at hc
      have hne : c ≠ '/' := by
        intro he
        rw [he] at hc
        exact h.no_slash (List.mem_of_mem_head? hc)
      simpa using hne
    rw [bareLink, htrim, dropWhile_of_head hslash]

/-- The name with its slash leaves the site only as a URL with a scheme. -/
theorem leavesSite_iff (h : IsAssetName name) (hblank : ∀ c ∈ name.head?, isBlank c = false) :
    LeavesSite (name ++ ['/']) ↔
      ∃ scheme rest, name = scheme ++ ':' :: rest ∧ IsSchemeText scheme := by
  constructor
  · intro hleaves
    -- The name has no slash and does not start with a hash, so a scheme is what is left.
    rcases hleaves with ⟨more, hmore⟩ | ⟨more, hmore⟩ | ⟨scheme, rest, hlink, hscheme⟩
    · have hhead : '/' ∈ name.head? := by
        rw [← h.head_append ['/'], ← hmore]
        rfl
      exact absurd (List.mem_of_mem_head? hhead) h.no_slash
    · have hhead : '#' ∈ name.head? := by
        rw [← h.head_append ['/'], ← hmore]
        rfl
      exact absurd (List.mem_of_mem_head? hhead)
        (h.not_mem hblank (by decide) (by decide) (by decide))
    · -- The slash is not the colon, so the colon stands in the name.
      obtain ⟨hcolon, -⟩ | ⟨rest', -, hname⟩ := split_slash hlink
      · exact absurd hcolon (by decide)
      · exact ⟨scheme, rest', hname, hscheme⟩
  · intro hname
    obtain ⟨scheme, rest, rfl, hscheme⟩ := hname
    refine .inr (.inr ⟨scheme, rest ++ ['/'], ?_, hscheme⟩)
    rw [List.append_assoc, List.cons_append]

/-- The name with its slash lies under a base only if it is that base. -/
theorem liesUnder_iff (h : IsAssetName name) (hblank : ∀ c ∈ name.head?, isBlank c = false)
    {base : List Char} (hne : base ≠ []) (hlast : base.getLast? ≠ some '/') :
    BasePath.LiesUnder base ('/' :: (name ++ ['/'])) ↔ base = '/' :: name := by
  constructor
  · intro hunder
    -- The base does not end in a slash, so the tail is not empty.
    obtain ⟨tail, htail, rfl | ⟨c, rest, rfl, hc⟩⟩ := hunder
    · refine absurd ?_ hlast
      rw [List.append_nil] at htail
      rw [← htail, ← List.cons_append, List.getLast?_concat]
    · rw [← List.cons_append] at htail
      obtain ⟨-, hname⟩ | ⟨rest', -, hname⟩ := split_slash htail
      · exact hname.symm
      · -- Otherwise the base would end inside the name, before a character that it cannot have.
        obtain ⟨first, base', rfl⟩ := List.exists_cons_of_ne_nil hne
        have hmem : c ∈ name := by
          rw [(List.cons.inj hname).2]
          simp
        rcases hc with rfl | rfl | rfl
        · exact absurd hmem h.no_slash
        · exact absurd hmem (h.not_mem hblank (by decide) (by decide) (by decide))
        · exact absurd hmem (h.not_mem hblank (by decide) (by decide) (by decide))
  · intro hbase
    exact ⟨['/'], by rw [hbase, List.cons_append], continuesBase_slash []⟩

end IsAssetName

namespace BuildOutput

/-- The place in a record that errors about the asset directory name. -/
def assetsField : FieldPath := ⟨"build.assets"⟩

/-- An asset directory without errors has the name of one. -/
theorem isAssetName_of_no_error {b : BuildOutput}
    (h : ∀ e ∈ b.diagnostics.errors, e.field ≠ assetsField) : IsAssetName b.assets.toList := by
  have hcheck : ∀ e ∈ (checkAssets b.assets).errors, e.field ≠ assetsField :=
    fun e he => h e (by simp [diagnostics, he])
  rw [checkAssets] at hcheck
  split at hcheck
  · exact absurd rfl (hcheck _ List.mem_cons_self)
  · rename_i hempty
    split at hcheck
    · exact absurd rfl (hcheck _ List.mem_cons_self)
    · rename_i hslash
      have hslash' : '/' ∉ b.assets.toList := by
        intro hmem
        apply hslash
        simp [hasChar, hmem]
      refine ⟨by simpa using hempty, hslash', ?_⟩
      -- All other names are refused with the error at their field.
      cases hparse : BasePath.parse b.assets with
      | ok base => exact IsAssetName.fits_of_parse hparse hslash'
      | error e =>
        have hwhen : (Diagnostics.when ((BasePath.parse b.assets).toOption.isNone ||
            b.assets == "." || b.assets == "..")
            (.error ⟨"build.assets"⟩ (ticked b.assets ++ " is not a valid URL path segment"))) =
            .error ⟨"build.assets"⟩ (ticked b.assets ++ " is not a valid URL path segment") := by
          rw [hparse]
          rfl
        rw [hwhen] at hcheck
        exact absurd rfl (hcheck _ List.mem_cons_self)

/-- The address of an accepted asset directory is the base, a slash, its name and a slash exactly
when the name does not start with a blank, names no scheme before a colon and is not that of the
base. -/
theorem assetsUrl_eq_iff {b : BuildOutput} {s : String} {base : BasePath}
    (hassets : ∀ e ∈ b.diagnostics.errors, e.field ≠ assetsField)
    (hbase : BasePath.parse s = .ok base) :
    b.assetsUrl base = base.text ++ "/" ++ b.assets ++ "/" ↔
      (∀ c ∈ b.assets.toList.head?, isBlank c = false) ∧
        (¬∃ scheme rest, b.assets.toList = scheme ++ ':' :: rest ∧ IsSchemeText scheme) ∧
        base.text ≠ "/" ++ b.assets := by
  have hname := isAssetName_of_no_error hassets
  -- Both sides are compared as characters.
  have hchars : b.assetsUrl base = base.text ++ "/" ++ b.assets ++ "/" ↔
      BasePath.joinChars base.text.toList (b.assets.toList ++ ['/']) =
        base.text.toList ++ '/' :: (b.assets.toList ++ ['/']) := by
    rw [← String.toList_inj, assetsUrl, BasePath.join]
    simp
  have hequal : base.text = "/" ++ b.assets ↔ base.text.toList = '/' :: b.assets.toList := by
    rw [← String.toList_inj]
    simp
  have hlast := BasePath.getLast?_of_parse hbase
  rw [hchars, BasePath.joinChars_eq_append_iff (BasePath.isBase_of_parse hbase),
    hname.bareLink_eq_iff, ne_eq, hequal]
  generalize base.text.toList = text at hlast
  constructor
  · intro h
    obtain ⟨hstays, hblank, hunder⟩ := h
    rw [BasePath.trimBoth_of_bareLink (hname.bareLink_eq_iff.2 hblank),
      hname.leavesSite_iff hblank] at hstays
    refine ⟨hblank, hstays, ?_⟩
    intro htext
    have hne : text ≠ [] := by
      rw [htext]
      exact List.cons_ne_nil _ _
    exact hunder.resolve_left hne ((hname.liesUnder_iff hblank hne hlast).2 htext)
  · intro h
    obtain ⟨hblank, hscheme, hother⟩ := h
    rw [BasePath.trimBoth_of_bareLink (hname.bareLink_eq_iff.2 hblank),
      hname.leavesSite_iff hblank]
    refine ⟨hscheme, hblank, ?_⟩
    by_cases hne : text = []
    · exact .inl hne
    · exact .inr (mt (hname.liesUnder_iff hblank hne hlast).1 hother)

/-- An asset directory whose name starts with that of the base, and has a colon behind a text that
is no scheme and a blank at its end. -/
def oddAssets : BuildOutput := { assets := "docs~1:x " }

theorem assetsUrl_eq_iff_odd : oddAssets.diagnostics.errors = [] ∧
    BasePath.parse "docs" = .ok ⟨"/docs"⟩ ∧
    oddAssets.assetsUrl ⟨"/docs"⟩ = "/docs" ++ "/" ++ "docs~1:x " ++ "/" := by
  have hassets : oddAssets.diagnostics.errors = [] := by decide +kernel
  have hbase : BasePath.parse "docs" = .ok ⟨"/docs"⟩ := by decide
  refine ⟨hassets, hbase, ?_⟩
  refine (assetsUrl_eq_iff (b := oddAssets) ?_ hbase).2 ⟨?_, ?_, ?_⟩
  · rw [hassets]
    exact fun e he => absurd he List.not_mem_nil
  · intro c hc
    have hhead : oddAssets.assets.toList.head? = some 'd' := by decide +kernel
    rw [hhead, Option.mem_some] at hc
    rw [← hc]
    decide
  · intro hscheme
    obtain ⟨scheme, rest, hname, hscheme⟩ := hscheme
    have hcut : splitOnce ':' oddAssets.assets.toList = some ("docs~1".toList, "x ".toList) := by
      decide +kernel
    rw [hname, splitOnce_of_scheme hscheme, Option.some.injEq, Prod.mk.injEq] at hcut
    rw [hcut.1, ← isScheme_iff] at hscheme
    exact absurd hscheme (by decide +kernel)
  · decide +kernel

/-- Accepted names that come to other addresses: the name of the base itself, one that looks like a
scheme, and one that starts with a blank. -/
theorem assetsUrl_misses : BasePath.parse "/docs" = .ok ⟨"/docs"⟩ ∧
    ∀ entry ∈ [("docs", "/docs/"), ("v1:a", "v1:a/"), (" a", "/docs/a/")],
      BuildOutput.diagnostics { assets := entry.1 } = .none ∧
      BuildOutput.assetsUrl { assets := entry.1 } ⟨"/docs"⟩ = entry.2 ∧
      entry.2 ≠ "/docs" ++ "/" ++ entry.1 ++ "/" := by
  refine ⟨by decide, ?_⟩
  decide +kernel

end BuildOutput

end DocSite
