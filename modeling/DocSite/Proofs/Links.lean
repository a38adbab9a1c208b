import DocSite.Proofs.BasePath

/-!
# Links under a base

  Joining puts a base in front of a link exactly once. A link is in place when it
  leaves the site, or when it is a path that already lies under the base: joining
  brings every link into place, and a link that is in place stays as it is.
-/

namespace DocSite

open DocSite.Text

/-! ## Links that leave the site -/

/-- A scheme of a URL: a letter, then letters, digits, `+`, `-` and `.`. -/
def IsSchemeText (scheme : List Char) : Prop :=
  ∃ first rest, scheme = first :: rest ∧ first.isAlpha = true ∧
    ∀ c ∈ rest, c.isAlphanum = true ∨ c = '+' ∨ c = '-' ∨ c = '.'

/-- A link that names a host, only a fragment, or a scheme. -/
def LeavesSite (link : List Char) : Prop :=
  ['/', '/'] <+: link ∨ ['#'] <+: link ∨
    ∃ scheme rest, link = scheme ++ ':' :: rest ∧ IsSchemeText scheme

theorem isScheme_iff (scheme : List Char) : Url.isScheme scheme = true ↔ IsSchemeText scheme := by
  cases scheme with
  | nil => simp [Url.isScheme, IsSchemeText]
  | cons first rest => simp [Url.isScheme, IsSchemeText, or_assoc]

/-- A scheme holds no colon, so it ends at the first one. -/
theorem splitOnce_of_scheme {scheme : List Char} (h : IsSchemeText scheme) (rest : List Char) :
    splitOnce ':' (scheme ++ ':' :: rest) = some (scheme, rest) := by
  have hcolon : ':' ∉ scheme := by
    obtain ⟨first, others, rfl, hfirst, hothers⟩ := h
    intro hmem
    rcases List.mem_cons.1 hmem with rfl | hmem
    · exact absurd hfirst (by decide)
    · exact absurd (hothers ':' hmem) (by decide)
  exact splitOnce_append hcolon rest

theorem isExternal_iff (link : List Char) : isExternal link = true ↔ LeavesSite link := by
  unfold isExternal LeavesSite
  rw [Bool.or_eq_true, Bool.or_eq_true, startsWith_iff, startsWith_iff, or_assoc]
  refine or_congr_right (or_congr_right ?_)
  constructor
  · intro h
    split at h
    · rename_i scheme rest hcut
      exact ⟨scheme, rest, (splitOnce_eq_some hcut).1, (isScheme_iff scheme).1 h⟩
    · simp at h
  · rintro ⟨scheme, rest, rfl, h⟩
    rw [splitOnce_of_scheme h]
    exact (isScheme_iff scheme).2 h

/-- A path with one slash at its front does not leave the site, whatever colons follow. -/
theorem not_leavesSite_slash {rest : List Char} (h : ∀ c ∈ rest.head?, c ≠ '/') :
    ¬LeavesSite ('/' :: rest) := by
  rintro (⟨more, hmore⟩ | ⟨more, hmore⟩ | ⟨scheme, more, hmore, first, others, rfl, hfirst, -⟩)
  · obtain rfl : '/' :: more = rest := by simpa using hmore
    exact h '/' (by simp) rfl
  · simp at hmore
  · obtain ⟨rfl, -⟩ : '/' = first ∧ _ := by simpa using hmore
    exact absurd hfirst (by decide)

/-! ## Tails -/

/-- What may follow a base: nothing, or what starts a new part of an address. -/
def ContinuesBase (tail : List Char) : Prop :=
  tail = [] ∨ ∃ c rest, tail = c :: rest ∧ (c = '/' ∨ c = '?' ∨ c = '#')

theorem continuesBase_iff (tail : List Char) : continuesBase tail = true ↔ ContinuesBase tail := by
  cases tail with
  | nil => simp [continuesBase, ContinuesBase]
  | cons c rest => simp [continuesBase, ContinuesBase, or_assoc]

theorem continuesBase_slash (rest : List Char) : ContinuesBase ('/' :: rest) :=
  .inr ⟨'/', rest, rfl, .inl rfl⟩

/-- The link without blanks around it and slashes at its front. -/
def bareLink (link : List Char) : List Char := (trimBoth link).dropWhile (· == '/')

theorem head_bareLink (link : List Char) : ∀ c ∈ (bareLink link).head?, c ≠ '/' := by
  intro c hc
  have hslash := head_dropWhile (fun c => c == '/') (trimBoth link) c hc
  simpa using hslash

/-- A bare link ends like the trimmed one. -/
theorem last_bareLink (link : List Char) : ∀ c ∈ (bareLink link).getLast?, isBlank c = false := by
  intro c hc
  obtain ⟨front, hfront⟩ : bareLink link <:+ trimBoth link := List.dropWhile_suffix _
  apply (ends_trimBoth link).2 c
  rw [← hfront, List.getLast?_append, Option.mem_def.1 hc]
  rfl

/-- What follows the base in a joined link: the rest of a bare link that is under the base
already, and else a slash and the whole of it. -/
inductive TailUnder (base bare : List Char) : List Char → Prop where
  | inside {tail : List Char} (hlink : '/' :: bare = base ++ tail) (htail : ContinuesBase tail) :
      TailUnder base bare tail
  | outside (h : ∀ tail, '/' :: bare = base ++ tail → ¬ContinuesBase tail) :
      TailUnder base bare ('/' :: bare)

theorem TailUnder.continuesBase {base bare tail : List Char} (h : TailUnder base bare tail) :
    ContinuesBase tail := by
  cases h with
  | inside _ htail => exact htail
  | outside _ => exact continuesBase_slash bare

/-- The base comes twice in front only where the link has it already. -/
theorem TailUnder.of_twice {name bare tail : List Char} (h : TailUnder ('/' :: name) bare tail)
    (htwice : '/' :: name ++ '/' :: name ++ ['/'] <+: '/' :: name ++ tail) :
    name ++ ['/'] <+: bare := by
  rw [List.append_assoc, List.prefix_append_right_inj] at htwice
  cases h with
  | inside hlink _ =>
    -- The tail starts with the base, so with a slash.
    obtain ⟨more, rfl⟩ := htwice
    obtain rfl : bare = name ++ ('/' :: name ++ ['/'] ++ more) := (List.cons.inj hlink).2
    exact ⟨name ++ ['/'] ++ more, by simp⟩
  | outside _ => exact (List.cons_prefix_cons.1 htwice).2

/-! ## Joining -/

namespace BasePath

variable {base link : List Char}

theorem joinChars_external (h : LeavesSite (trimBoth link)) :
    joinChars base link = trimBoth link := by
  rw [joinChars, if_pos ((isExternal_iff _).2 h)]

theorem joinChars_root (h : ¬LeavesSite (trimBoth link)) :
    joinChars [] link = '/' :: bareLink link := by
  rw [joinChars, if_neg (mt (isExternal_iff _).1 h)]
  rfl

/-- A link of the site is joined to a base that is not the root by writing its tail behind it. -/
theorem joinChars_under (name : List Char) (h : ¬LeavesSite (trimBoth link)) :
    ∃ tail, TailUnder ('/' :: name) (bareLink link) tail ∧
      joinChars ('/' :: name) link = '/' :: name ++ tail := by
  have hexternal : ¬isExternal (trimBoth link) = true := mt (isExternal_iff _).1 h
  have hbare : (trimBoth link).dropWhile (· == '/') = bareLink link := rfl
  simp only [joinChars, if_neg hexternal, hbare]
  -- The name of the base may be in front of the link; what is behind it decides if the link is
  -- inside.
  split
  · rename_i tail htail
    have hlink : '/' :: bareLink link = '/' :: name ++ tail := by
      rw [dropStart?_eq_some_iff.1 htail, List.cons_append]
    split
    · rename_i hcontinues
      exact ⟨tail, .inside hlink ((continuesBase_iff tail).1 hcontinues), hlink⟩
    · rename_i hcontinues
      refine ⟨'/' :: bareLink link, .outside ?_, rfl⟩
      -- There is only one tail behind the base.
      intro other hother hcontinues'
      obtain rfl : other = tail := List.append_cancel_left (hother.symm.trans hlink)
      exact hcontinues ((continuesBase_iff other).2 hcontinues')
  · rename_i hnone
    refine ⟨'/' :: bareLink link, .outside ?_, rfl⟩
    intro tail htail _
    have hsome : dropStart? name (bareLink link) = some tail :=
      dropStart?_eq_some_iff.2 (List.cons.inj htail).2
    simp [hnone] at hsome

/-! ## Links in place -/

/-- A trimmed link that leaves the site, or a path with one slash in front that lies under the
base. -/
def InPlace (base link : List Char) : Prop :=
  trimBoth link = link ∧
    (LeavesSite link ∨
      ∃ bare tail, link = '/' :: bare ∧ (∀ c ∈ bare.head?, c ≠ '/') ∧ link = base ++ tail ∧
        (base = [] ∨ ContinuesBase tail))

theorem trimBoth_slash {rest : List Char} (h : ∀ c ∈ rest.getLast?, isBlank c = false) :
    trimBoth ('/' :: rest) = '/' :: rest := by
  have hslash : isBlank '/' = false := by decide
  apply trimBoth_of_ends
  · simpa using hslash
  · intro c hc
    cases rest with
    | nil =>
      obtain rfl : '/' = c := by simpa using hc
      exact hslash
    | cons first rest => exact h c (by simpa using hc)

theorem bareLink_slash {rest : List Char} (htrim : trimBoth ('/' :: rest) = '/' :: rest)
    (hhead : ∀ c ∈ rest.head?, c ≠ '/') : bareLink ('/' :: rest) = rest := by
  have hstop : rest.dropWhile (· == '/') = rest :=
    dropWhile_of_head fun c hc => by simpa using hhead c hc
  rw [bareLink, htrim, List.dropWhile_cons_of_pos (by rfl), hstop]

/-- A base as it is kept: nothing for the root, else a slash and a name that starts with none. -/
def IsBase (base : List Char) : Prop :=
  base = [] ∨ ∃ name, base = '/' :: name ∧ name ≠ [] ∧ ∀ c ∈ name.head?, c ≠ '/'

theorem isBase_of_parse {s : String} {b : BasePath} (h : parse s = .ok b) :
    IsBase b.text.toList := by
  rcases of_parse h with ⟨-, rfl⟩ | ⟨hne, htext, hcheck⟩
  · exact .inl rfl
  · refine .inr ⟨inner s, htext, hne, ?_⟩
    intro c hc hslash
    obtain ⟨rest, hrest⟩ : ∃ rest, inner s = '/' :: rest := by
      cases hinner : inner s with
      | nil => exact absurd hinner hne
      | cons first rest =>
        obtain rfl : first = c := by simpa [hinner] using hc
        exact ⟨rest, by rw [hslash]⟩
    -- A slash at the front would leave an empty first segment.
    have hempty : [] ∈ splitOn '/' (inner s) := by simp [hrest, splitOn]
    exact (of_checkSegment (hcheck [] hempty)).1 rfl

/-- Joining brings a link into place. -/
theorem inPlace_joinChars (hbase : IsBase base) : InPlace base (joinChars base link) := by
  by_cases hleaves : LeavesSite (trimBoth link)
  · rw [joinChars_external hleaves]
    exact ⟨trimBoth_trimBoth link, .inl hleaves⟩
  · rcases hbase with rfl | ⟨name, rfl, hne, hname⟩
    · rw [joinChars_root hleaves]
      exact ⟨trimBoth_slash (last_bareLink link),
        .inr ⟨bareLink link, '/' :: bareLink link, rfl, head_bareLink link, rfl, .inl rfl⟩⟩
    · obtain ⟨tail, htail, hjoin⟩ := joinChars_under name hleaves
      have hcontinues := htail.continuesBase
      rw [hjoin]
      cases htail with
      | inside hlink _ =>
        -- Inside, the link is its own result; outside, the base stands in front of all of it.
        refine ⟨?_, .inr ⟨bareLink link, tail, hlink.symm, head_bareLink link, rfl,
          .inr hcontinues⟩⟩
        rw [← hlink]
        exact trimBoth_slash (last_bareLink link)
      | outside _ =>
        refine ⟨trimBoth_slash ?_, .inr ⟨name ++ '/' :: bareLink link, '/' :: bareLink link, rfl,
          ?_, rfl, .inr hcontinues⟩⟩
        · intro c hc
          have hlast : c ∈ ('/' :: bareLink link).getLast? := by
            simpa [List.getLast?_append] using hc
          rw [← trimBoth_slash (last_bareLink link)] at hlast
          exact (ends_trimBoth _).2 c hlast
        · intro c hc
          cases name with
          | nil => exact absurd rfl hne
          | cons first name => exact hname c (by simpa using hc)

/-- A link that is in place stays as it is. -/
theorem joinChars_of_inPlace (hbase : IsBase base) (h : InPlace base link) :
    joinChars base link = link := by
  obtain ⟨htrim, hleaves | ⟨bare, tail, rfl, hhead, hunder, hcontinues⟩⟩ := h
  · rw [joinChars_external (by rwa [htrim]), htrim]
  · have hstays : ¬LeavesSite (trimBoth ('/' :: bare)) := by
      rw [htrim]
      exact not_leavesSite_slash hhead
    have hbare : bareLink ('/' :: bare) = bare := bareLink_slash htrim hhead
    rcases hbase with rfl | ⟨name, rfl, -, -⟩
    · rw [joinChars_root hstays, hbare]
    · obtain ⟨tail', htail', hjoin⟩ := joinChars_under name hstays
      rw [hjoin]
      rw [hbare] at htail'
      cases htail' with
      | inside hlink _ => exact hlink.symm
      | outside houtside =>
        exact absurd (hcontinues.resolve_left (by simp)) (houtside tail hunder)

/-- Joining twice is joining once. -/
theorem joinChars_joinChars (hbase : IsBase base) :
    joinChars base (joinChars base link) = joinChars base link :=
  joinChars_of_inPlace hbase (inPlace_joinChars hbase)

/-! ## The base exactly once -/

/-- A link that leaves the site is trimmed and nothing else; any other link gets the base in front
of it unless it is under the base already; and joining again changes nothing. -/
theorem join_prefixes_once {s : String} {b : BasePath} (h : parse s = .ok b) (link : String) :
    (LeavesSite (trim link).toList → b.join link = trim link) ∧
    (¬LeavesSite (trim link).toList →
      (b.isRoot = true → (b.join link).toList = '/' :: bareLink link.toList) ∧
      (b.isRoot = false →
        (∃ tail, (b.join link).toList = b.text.toList ++ tail ∧ ContinuesBase tail ∧
          TailUnder b.text.toList (bareLink link.toList) tail) ∧
        (b.text.toList ++ b.text.toList ++ ['/'] <+: (b.join link).toList →
          b.text.toList.tail ++ ['/'] <+: bareLink link.toList))) ∧
    b.join (b.join link) = b.join link := by
  have hbase := isBase_of_parse h
  rw [toList_trim]
  refine ⟨fun hleaves => ?_, fun hstays => ⟨fun hroot => ?_, fun hroot => ?_⟩, ?_⟩
  · rw [join, joinChars_external hleaves]
    rfl
  · have hempty : b.text.toList = [] := by simpa [isRoot] using hroot
    rw [join, hempty, joinChars_root hstays, String.toList_ofList]
  · have hne : b.text.toList ≠ [] := by simpa [isRoot] using hroot
    obtain ⟨name, hname, -, -⟩ := hbase.resolve_left hne
    obtain ⟨tail, htail, hjoin⟩ := joinChars_under name hstays
    rw [join, String.toList_ofList, hname, hjoin]
    exact ⟨⟨tail, rfl, htail.continuesBase, htail⟩, htail.of_twice⟩
  · simp only [join, String.toList_ofList, joinChars_joinChars hbase]

/-- A base with a colon in it, and a link whose first segment only looks like it. -/
theorem join_prefixes_once_colon : parse "a:b/" = .ok ⟨"/a:b"⟩ ∧
    ¬LeavesSite (trim " /a:bc?q ").toList ∧
    (∃ tail, ((BasePath.mk "/a:b").join " /a:bc?q ").toList = "/a:b".toList ++ tail ∧
      TailUnder "/a:b".toList (bareLink " /a:bc?q ".toList) tail) ∧
    (BasePath.mk "/a:b").join " /a:bc?q " = "/a:b/a:bc?q" := by
  have hparse : parse "a:b/" = .ok ⟨"/a:b"⟩ := by decide
  have hstays : ¬LeavesSite (trim " /a:bc?q ").toList := by
    rw [← isExternal_iff]
    decide
  obtain ⟨tail, hjoin, -, htail⟩ :=
    (((join_prefixes_once hparse " /a:bc?q ").2.1 hstays).2 (by decide)).1
  exact ⟨hparse, hstays, ⟨tail, hjoin, htail⟩, by decide⟩

end BasePath

end DocSite
