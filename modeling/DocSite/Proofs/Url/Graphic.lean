import DocSite.Proofs.Ip
import DocSite.SiteOrigin

/-!
# URLs are written in graphic ASCII

  Percent encoding, Punycode and the texts of numeric hosts leave nothing but
  graphic ASCII in a URL of the web. So trimming never changes a written URL, and
  the path of a site never looks blank.
-/

namespace DocSite.Url

open DocSite.Text

/-! ## Percent encoding -/

theorem isGraphic_upperHexDigit : ∀ n < 16, IsGraphic (upperHexDigit n) := by decide

theorem utf8Bytes_lt (c : Char) : ∀ b ∈ utf8Bytes c, b < 256 := by
  have hc : c.toNat < 0x110000 := by
    rcases c.valid with h | h
    · exact Nat.lt_trans h (by decide)
    · exact h.2
  unfold utf8Bytes
  intro b hb
  simp only at hb
  split at hb
  · simp at hb; omega
  · split at hb
    · simp at hb; omega
    · split at hb <;> (simp at hb; omega)

theorem isGraphic_percentByte {b : Nat} (hb : b < 256) : ∀ c ∈ percentByte b, IsGraphic c := by
  intro c hc
  simp only [percentByte, List.mem_cons, List.not_mem_nil, or_false] at hc
  rcases hc with rfl | rfl | rfl
  · decide
  · exact isGraphic_upperHexDigit _ (by omega)
  · exact isGraphic_upperHexDigit _ (by omega)

/-- Encoding leaves graphic characters, if all others are in its set. -/
theorem isGraphic_percentEncode {encoded : Char → Bool}
    (hset : ∀ c, encoded c = false → IsGraphic c) (cs : List Char) :
    ∀ c ∈ percentEncode encoded cs, IsGraphic c := by
  intro c hc
  obtain ⟨x, -, hx⟩ := List.mem_flatMap.1 hc
  split at hx
  · obtain ⟨b, hb, hcb⟩ := List.mem_flatMap.1 hx
    exact isGraphic_percentByte (utf8Bytes_lt x b hb) c hcb
  · rename_i hnot
    rw [List.mem_singleton.1 hx]
    exact hset x (by simpa using hnot)

theorem isGraphic_of_isPathEncoded {c : Char} (h : isPathEncoded c = false) : IsGraphic c := by
  simp only [isPathEncoded, isAlwaysEncoded, Bool.or_eq_false_iff, decide_eq_false_iff_not,
    List.contains_eq_mem, List.mem_cons, not_or] at h
  have hspace : c.toNat ≠ 0x20 := fun e => h.2.1 (Char.toNat_inj.1 e)
  unfold IsGraphic
  omega

theorem isGraphic_of_isUserEncoded {c : Char} (h : isUserEncoded c = false) : IsGraphic c := by
  simp only [isUserEncoded, Bool.or_eq_false_iff] at h
  exact isGraphic_of_isPathEncoded h.1

/-! ## Paths -/

/-- Resolving dots keeps segments, drops some and may add an empty one. -/
theorem mem_resolveDots {done segments : List (List Char)} {segment : List Char}
    (h : segment ∈ resolveDots done segments) :
    segment = [] ∨ segment ∈ done ∨ segment ∈ segments := by
  induction segments generalizing done with
  | nil => exact .inr (.inl (by simpa [resolveDots] using h))
  | cons first rest ih =>
    rw [resolveDots] at h
    -- The segments so far grow by this segment or by an empty one.
    have hgrown : ∀ x ∈ (if isDoubleDot first then done.drop 1
        else if isSingleDot first then done else first :: done), x ∈ done ∨ x = first := by
      intro x hx
      split at hx
      · exact .inl (List.mem_of_mem_drop hx)
      · split at hx
        · exact .inl hx
        · exact (List.mem_cons.1 hx).symm
    rcases ih h with hnil | hdone | hrest
    · exact .inl hnil
    · -- Behind two dots an empty segment may be added.
      have hcases : segment = [] ∨ segment ∈ done ∨ segment = first := by
        split at hdone
        · rcases List.mem_cons.1 hdone with hnil | hdone
          · exact .inl hnil
          · exact .inr (hgrown segment hdone)
        · exact .inr (hgrown segment hdone)
      rcases hcases with hnil | hdone | rfl
      · exact .inl hnil
      · exact .inr (.inl hdone)
      · exact .inr (.inr (by simp))
    · exact .inr (.inr (by simp [hrest]))

/-- The path of a URL of the web is a slash and graphic characters. -/
theorem isGraphic_pathText (kind : SchemeKind) (path : List Char) :
    ∀ c ∈ (pathText kind path).toList, IsGraphic c := by
  intro c hc
  simp only [pathText, String.toList_ofList, List.mem_cons] at hc
  rcases hc with rfl | hc
  · decide
  · rcases mem_joinWith hc with hc | ⟨segment, hsegment, hc⟩
    · rw [List.mem_singleton.1 hc]
      decide
    · rcases mem_resolveDots hsegment with rfl | h | h
      · simp at hc
      · simp at h
      · obtain ⟨piece, -, rfl⟩ := List.mem_map.1 h
        exact isGraphic_percentEncode (fun _ => isGraphic_of_isPathEncoded) piece c hc

/-! ## Hosts -/

namespace Punycode

theorem isAscii_digit : ∀ n < 36, (digit n).toNat < 0x80 := by decide

theorem isAscii_digitsOf (bias k q : Nat) : ∀ c ∈ digitsOf bias k q, c.toNat < 0x80 := by
  fun_induction digitsOf bias k q with
  | case1 k q t hlt =>
    intro c hc
    have ht := limit_le bias k
    rw [List.mem_singleton.1 hc]
    exact isAscii_digit q (by omega)
  | case2 k q t hge ih =>
    intro c hc
    have ht := limit_le bias k
    have hmod : (q - t) % (36 - t) < 36 - t := Nat.mod_lt _ (by omega)
    rcases List.mem_cons.1 hc with rfl | hc
    · exact isAscii_digit _ (by omega)
    · exact ih c hc

/-- An encoder that has written ASCII so far. -/
def State.Ascii (s : State) : Prop := ∀ c ∈ s.output, c.toNat < 0x80

theorem ascii_pass {basic n : Nat} {s : State} (h : s.Ascii) (c : Char) :
    (pass basic n s c).Ascii := by
  unfold pass
  split
  · exact h
  · split
    · intro x hx
      rcases List.mem_append.1 hx with hx | hx
      · exact h x hx
      · exact isAscii_digitsOf _ _ _ x hx
    · exact h

theorem ascii_foldl_pass {basic n : Nat} (label : List Char) {s : State} (h : s.Ascii) :
    (label.foldl (pass basic n) s).Ascii := by
  induction label generalizing s with
  | nil => exact h
  | cons c label ih => exact ih (ascii_pass h c)

theorem ascii_insertAll (label : List Char) (basic : Nat) (codes : List Nat) (n : Nat) {s : State}
    (h : s.Ascii) : (insertAll label basic codes n s).Ascii := by
  induction codes generalizing n s with
  | nil => exact h
  | cons m rest ih =>
    rw [insertAll]
    exact ih _ (ascii_foldl_pass label (s := { s with delta := _ }) h)

/-- Punycode is ASCII. -/
theorem isAscii_encode (label : List Char) : ∀ c ∈ encode label, c.toNat < 0x80 := by
  have hext := ascii_insertAll label (label.filter (·.toNat < 0x80)).length
    (((label.filter (0x80 ≤ ·.toNat)).map Char.toNat).foldr insertSorted []) 0x80
    (s := ⟨0, 72, (label.filter (·.toNat < 0x80)).length, []⟩) (by simp [State.Ascii])
  intro c hc
  simp only [encode] at hc
  split at hc
  · exact hext c hc
  · rcases List.mem_append.1 hc with hc | hc
    · simpa using (List.mem_filter.1 hc).2
    · rcases List.mem_cons.1 hc with rfl | hc
      · decide
      · exact hext c hc

end Punycode

namespace Domain

theorem toNat_ofNat_lt {n : Nat} (h : n < 0x80) : (Char.ofNat n).toNat < 0x80 := by
  have hall : ∀ n < 0x80, (Char.ofNat n).toNat < 0x80 := by decide
  exact hall n h

theorem isAscii_mark : ∀ c ∈ "xn--".toList, c.toNat < 0x80 := by simp

/-- The written form of a label is ASCII. -/
theorem isAscii_label {codes : List Nat} {label : Label} (h : label? codes = some label) :
    ∀ c ∈ label.ascii, c.toNat < 0x80 := by
  simp only [label?] at h
  -- The label was written in the encoded form, is ASCII itself, or is encoded now.
  split at h
  · rename_i encoded hstart
    simp only [Option.bind_eq_bind] at h
    split at h
    · simp at h
    · rename_i hall
      simp only [Bool.or_eq_true, Bool.not_eq_true', not_or, Bool.not_eq_false] at hall
      simp only [Option.bind_eq_some_iff] at h
      obtain ⟨decoded, -, h⟩ := h
      split at h
      · obtain rfl := Option.some.inj h
        intro c hc
        rw [dropStart?_eq_some_iff.1 hstart] at hc
        rcases List.mem_append.1 hc with hc | hc
        · exact isAscii_mark c hc
        · simpa using List.all_eq_true.1 hall.1 c hc
      · simp at h
  · split at h
    · rename_i hall
      obtain rfl := Option.some.inj h
      intro c hc
      obtain ⟨n, hn, rfl⟩ := List.mem_map.1 hc
      exact toNat_ofNat_lt (by simpa using List.all_eq_true.1 hall n hn)
    · split at h
      · obtain rfl := Option.some.inj h
        intro c hc
        rcases List.mem_append.1 hc with hc | hc
        · exact isAscii_mark c hc
        · exact Punycode.isAscii_encode _ c hc
      · simp at h

/-- The ASCII form of a host name is graphic. -/
theorem isGraphic_toAscii? {name ascii : List Char} (h : toAscii? name = some ascii) :
    ∀ c ∈ ascii, IsGraphic c := by
  simp only [toAscii?, Option.bind_eq_bind, Option.bind_eq_some_iff] at h
  obtain ⟨codes, -, labels, hlabels, h⟩ := h
  split at h
  · simp at h
  · rename_i hallowed
    obtain rfl := Option.some.inj h
    intro c hc
    have hforbidden : isForbidden c = false := by
      simp only [Bool.or_eq_true, not_or] at hallowed
      simpa using List.any_eq_false.1 (Bool.not_eq_true _ ▸ hallowed.1) c hc
    have hascii : c.toNat < 0x80 := by
      rcases mem_joinWith hc with hdot | ⟨piece, hpiece, hc⟩
      · rw [List.mem_singleton.1 hdot]
        decide
      · obtain ⟨label, hlabel, rfl⟩ := List.mem_map.1 hpiece
        exact forall_of_mapM (fun _ _ => isAscii_label) hlabels label hlabel c hc
    -- Of ASCII, what is not forbidden in a host is graphic.
    simp only [isForbidden, Bool.or_eq_false_iff, decide_eq_false_iff_not,
      beq_eq_false_iff_ne] at hforbidden
    unfold IsGraphic
    omega

end Domain

/-- The text of a host of the web is graphic. -/
theorem isGraphic_host {text : List Char} {host : Host} (h : webHost? text = some host) :
    ∀ c ∈ host.text.toList, IsGraphic c := by
  cases host with
  | v4 n => exact Ip.isGraphic_v4Text n
  | v6 groups =>
    intro c hc
    simp only [Host.text, String.toList_append, List.mem_append] at hc
    have hopen : ∀ x ∈ "[".toList, IsGraphic x := forall_isGraphic (by decide)
    have hclose : ∀ x ∈ "]".toList, IsGraphic x := forall_isGraphic (by decide)
    rcases hc with (hc | hc) | hc
    · exact hopen c hc
    · exact Ip.isGraphic_v6Text groups c hc
    · exact hclose c hc
  | domain name =>
    -- Only the last of the ways to read a host gives a name.
    unfold webHost? at h
    split at h
    · simp only [bracketHost?, Option.bind_eq_bind, Option.bind_eq_some_iff] at h
      obtain ⟨_, -, _, -, h⟩ := h
      simp at h
    · simp only [Option.bind_eq_bind, Option.bind_eq_some_iff] at h
      obtain ⟨_, -, ascii, hascii, h⟩ := h
      split at h
      · simp at h
      · split at h
        · simp only [numericHost?, Option.bind_eq_bind] at h
          split at h
          · simp at h
          · simp only [Option.bind_eq_some_iff] at h
            obtain ⟨_, -, _, -, h⟩ := h
            split at h <;> simp at h
        · have hname : name = String.ofList ascii := (Host.domain.inj (Option.some.inj h)).symm
          simpa [Host.text, hname] using Domain.isGraphic_toAscii? hascii

/-! ## Whole URLs -/

/-- What the parts of a URL of the web were read from. -/
structure WebParts (scheme : String) (u : Url) : Prop where
  scheme_eq : u.scheme = scheme
  username : ∃ name, u.username = String.ofList (percentEncode isUserEncoded name)
  password : ∃ word, u.password = String.ofList (percentEncode isUserEncoded word)
  host : ∃ text host, u.host = some host ∧ webHost? text = some host
  path : ∃ path, u.path = pathText .web path

/-- Reading an authority keeps the scheme; of a scheme of the web, it reads the other parts. -/
theorem of_authority? {scheme : String} {kind : SchemeKind} {cs : List Char} {u : Url}
    (h : authority? scheme kind cs = some u) :
    u.scheme = scheme ∧ (kind = .web → WebParts scheme u) := by
  -- Each refusal leaves no URL, so the branch that reads one is left.
  simp only [authority?, Option.bind_eq_bind] at h
  split at h
  · simp at h
  · split at h
    · simp at h
    · split at h
      · simp at h
      · split at h
        · simp only [Option.bind_eq_some_iff] at h
          obtain ⟨host, hhost, port, -, h⟩ := h
          obtain rfl := Option.some.inj h
          refine ⟨rfl, ?_⟩
          rintro rfl
          exact ⟨rfl, ⟨_, rfl⟩, ⟨_, rfl⟩, ⟨_, host, rfl, hhost⟩, ⟨_, rfl⟩⟩
        · rename_i hkind
          simp only [Option.bind_eq_some_iff] at h
          obtain ⟨host, hhost, port, -, h⟩ := h
          obtain rfl := Option.some.inj h
          refine ⟨rfl, ?_⟩
          rintro rfl
          exact absurd rfl hkind

theorem scheme_of_file? {scheme : String} {cs : List Char} {u : Url}
    (h : file? scheme cs = some u) : u.scheme = scheme := by
  unfold file? at h
  split at h
  · split at h
    · simp only at h
      split at h
      · rw [← Option.some.inj h]
      · obtain ⟨host, -, rfl⟩ := Option.map_eq_some_iff.1 h
        rfl
    · rw [← Option.some.inj h]
  · rw [← Option.some.inj h]

/-- A URL of the web was read from a scheme and an authority. -/
theorem webParts_of_parse? {s : String} {u : Url} (h : parse? s = some u)
    (hweb : schemeKind u.scheme = .web) : WebParts u.scheme u := by
  simp only [parse?, Option.bind_eq_bind, Option.bind_eq_some_iff] at h
  obtain ⟨⟨scheme, rest⟩, -, h⟩ := h
  simp only at h
  split at h
  · -- The scheme of a file is no scheme of the web, and neither is an unknown one.
    have hparts := of_authority? h
    rw [hparts.1]
    exact hparts.2 rfl
  · rename_i hkind
    rw [scheme_of_file? h, hkind] at hweb
    exact absurd hweb (by decide)
  · rename_i hkind
    have hscheme : u.scheme = scheme := by
      split at h
      · exact (of_authority? h).1
      · rw [← Option.some.inj h]
    rw [hscheme, hkind] at hweb
    exact absurd hweb (by decide)

end DocSite.Url

/-! ## Sites -/

namespace DocSite.SiteOrigin

open DocSite.Text DocSite.Url

/-- What an address of a site is. -/
theorem of_parse {s : String} {site : SiteOrigin} (h : parse s = .ok site) :
    Url.parse? (trim s) = some site.url ∧ (site.url.scheme = "http" ∨ site.url.scheme = "https") ∧
      site.url.host.isSome = true ∧ site.url.hasQuery = false ∧ site.url.hasFragment = false := by
  -- Each of the four checks was passed, in the order in which they are made.
  unfold parse at h
  split at h
  · simp at h
  · rename_i u hu
    split at h
    · simp at h
    · rename_i hscheme
      split at h
      · simp at h
      · rename_i hhost
        split at h
        · simp at h
        · rename_i hquery
          obtain rfl := Except.ok.inj h
          simp only [Bool.and_eq_true, bne_iff_ne, ne_eq, not_and, Decidable.not_not] at hscheme
          simp only [Bool.or_eq_true, not_or, Bool.not_eq_true] at hquery
          refine ⟨hu, ?_, by simpa [Option.isSome_iff_ne_none] using hhost, hquery.1, hquery.2⟩
          by_cases hhttp : u.scheme = "http"
          · exact .inl hhttp
          · exact .inr (hscheme hhttp)

theorem webParts {s : String} {site : SiteOrigin} (h : parse s = .ok site) :
    WebParts site.url.scheme site.url := by
  obtain ⟨hparse, hscheme, -⟩ := of_parse h
  apply webParts_of_parse? hparse
  rcases hscheme with h | h <;> rw [h] <;> decide

section parts
variable {s : String} {site : SiteOrigin}

theorem isGraphic_scheme (h : parse s = .ok site) :
    ∀ c ∈ site.url.scheme.toList ++ "://".toList, IsGraphic c := by
  obtain ⟨-, hscheme | hscheme, -⟩ := of_parse h <;> rw [hscheme] <;>
    exact forall_isGraphic (by decide)

theorem isGraphic_user (h : parse s = .ok site) : ∀ c ∈ site.url.userText.toList, IsGraphic c := by
  obtain ⟨-, ⟨name, hname⟩, ⟨word, hword⟩, -, -⟩ := webParts h
  have hencoded (cs : List Char) : ∀ c ∈ percentEncode isUserEncoded cs, IsGraphic c :=
    isGraphic_percentEncode (fun _ => isGraphic_of_isUserEncoded) cs
  have hat : ∀ x ∈ "@".toList, IsGraphic x := forall_isGraphic (by decide)
  have hcolon : ∀ x ∈ ":".toList, IsGraphic x := forall_isGraphic (by decide)
  intro c hc
  unfold userText at hc
  -- The name comes first, then the password if there is one, then the sign behind both.
  split at hc
  · simp at hc
  · simp only [String.toList_append, List.mem_append, hname] at hc
    rcases hc with (hc | hc) | hc
    · exact hencoded name c (by simpa using hc)
    · split at hc
      · simp at hc
      · rw [String.toList_append, List.mem_append, hword] at hc
        rcases hc with hc | hc
        · exact hcolon c hc
        · exact hencoded word c (by simpa using hc)
    · exact hat c hc

theorem isGraphic_hostText (h : parse s = .ok site) :
    ∀ c ∈ ((site.url.host.map Host.text).getD "").toList, IsGraphic c := by
  obtain ⟨-, -, -, ⟨text, host, hhost, hread⟩, -⟩ := webParts h
  rw [hhost]
  exact isGraphic_host hread

theorem isGraphic_port (port : Option Nat) :
    ∀ c ∈ (match port with
      | none => ""
      | some n => ":" ++ toString n).toList, IsGraphic c := by
  cases port with
  | none => simp
  | some n =>
    intro c hc
    rw [String.toList_append, List.mem_append] at hc
    have hcolon : ∀ x ∈ ":".toList, IsGraphic x := forall_isGraphic (by decide)
    rcases hc with hc | hc
    · exact hcolon c hc
    · rw [Nat.toString_eq_ofList_toDigits, String.toList_ofList] at hc
      exact isGraphic_of_isDigit (Nat.isDigit_of_mem_toDigits (by decide) (by decide) hc)

theorem isGraphic_urlPath (h : parse s = .ok site) : ∀ c ∈ site.url.path.toList, IsGraphic c := by
  obtain ⟨-, -, -, -, ⟨path, hpath⟩⟩ := webParts h
  rw [hpath]
  exact isGraphic_pathText .web path

/-- The origin of a site is graphic. -/
theorem isGraphic_origin (h : parse s = .ok site) : ∀ c ∈ site.origin.toList, IsGraphic c := by
  intro c hc
  rw [origin, originText, String.toList_append, String.toList_append, String.toList_append,
    List.mem_append, List.mem_append] at hc
  rcases hc with (hc | hc) | hc
  · exact isGraphic_scheme h c hc
  · exact isGraphic_hostText h c hc
  · exact isGraphic_port site.url.port c hc

/-- The whole address of a site is graphic. -/
theorem isGraphic_text (h : parse s = .ok site) : ∀ c ∈ site.url.text.toList, IsGraphic c := by
  intro c hc
  rw [Url.text, String.toList_append, String.toList_append, String.toList_append,
    String.toList_append, String.toList_append, List.mem_append, List.mem_append,
    List.mem_append, List.mem_append] at hc
  rcases hc with (((hc | hc) | hc) | hc) | hc
  · exact isGraphic_scheme h c hc
  · exact isGraphic_user h c hc
  · exact isGraphic_hostText h c hc
  · exact isGraphic_port site.url.port c hc
  · exact isGraphic_urlPath h c hc

/-- What a site displays is graphic, so nothing is trimmed off it. -/
theorem trim_display (h : parse s = .ok site) : trim site.display = site.display := by
  have hgraphic : ∀ c ∈ site.display.toList, IsGraphic c := by
    unfold display
    split
    · exact isGraphic_origin h
    · exact isGraphic_text h
  rw [trim, trimBoth_of_not_blank fun c hc => (hgraphic c hc).not_blank, String.ofList_toList]

/-- The path of a site is graphic. -/
theorem isGraphic_path (h : parse s = .ok site) : ∀ c ∈ site.path.toList, IsGraphic c := by
  intro c hc
  apply isGraphic_urlPath h c
  simp only [path, String.toList_ofList, List.mem_reverse] at hc
  have hback := (List.dropWhile_sublist _).subset hc
  exact (List.dropWhile_sublist _).subset (List.mem_reverse.1 hback)

end parts

end DocSite.SiteOrigin
