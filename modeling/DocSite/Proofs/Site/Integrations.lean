import DocSite.Proofs.Diagnostics
import DocSite.Site.Config

/-!
# What the check of the plugins finds

  The plugins of a site are checked one after the other: each by its own options
  and against the render mode, the address and the plugins before it. Behind the
  last one the server adapters are counted. The check reports no error for exactly
  the records in which the plugins fit, and it reports the plugins whose names stand
  earlier in the list, each with the place where its name stands first.
-/

namespace DocSite

open DocSite.Text

/-! ## Names that come again -/

/-- The name at one place of a list stands earlier in it, and first at another place. -/
structure Repeats (names : List String) (i first : Nat) (name : String) : Prop where
  here : names[i]? = some name
  before : first < i
  same : names[first]? = some name
  least : ∀ k < first, names[k]? ≠ some name

/-- A name that stands earlier in a list stands first somewhere. -/
theorem exists_repeats_iff {names : List String} {i : Nat} {name : String} :
    (∃ first, Repeats names i first name) ↔
      names[i]? = some name ∧ ∃ j < i, names[j]? = some name := by
  constructor
  · intro h
    obtain ⟨first, hfirst⟩ := h
    exact ⟨hfirst.here, first, hfirst.before, hfirst.same⟩
  · intro h
    obtain ⟨hhere, hearlier⟩ := h
    refine ⟨Nat.find hearlier, hhere, (Nat.find_spec hearlier).1, (Nat.find_spec hearlier).2, ?_⟩
    intro k hk hname
    have hki : k < i := hk.trans (Nat.find_spec hearlier).1
    exact Nat.find_min hearlier hk ⟨hki, hname⟩

/-- No name comes twice exactly when no place repeats an earlier one. -/
theorem nodup_iff_not_repeats {names : List String} :
    names.Nodup ↔ ∀ i first name, ¬ Repeats names i first name := by
  rw [List.nodup_iff_getElem?_ne_getElem?]
  constructor
  · intro h i first name hrepeats
    have hi : i < names.length := (List.getElem?_eq_some_iff.1 hrepeats.here).1
    exact h first i hrepeats.before hi (hrepeats.same.trans hrepeats.here.symm)
  · intro h i j hij hj heq
    have hname : names[j]? = some names[j] := List.getElem?_eq_getElem hj
    obtain ⟨first, hfirst⟩ := exists_repeats_iff.2 ⟨hname, i, hij, heq.trans hname⟩
    exact h j first _ hfirst

namespace SiteConfig

/-- The index of the first plugin with a name, among those before a place. -/
theorem firstIndex?_take_eq_some_iff {xs : List Integration} {i first : Nat} {x : Integration}
    (hx : xs[i]? = some x) :
    firstIndex? (xs.take i) x.name = some first ↔
      Repeats (xs.map Integration.name) i first x.name := by
  have hname (k : Nat) : (xs.map Integration.name)[k]? = xs[k]?.map Integration.name :=
    List.getElem?_map
  have hi : i < xs.length := (List.getElem?_eq_some_iff.1 hx).1
  rw [firstIndex?, List.findIdx?_eq_some_iff_getElem]
  constructor
  · -- What stands in front of the place and what stands in the whole list are the same up to there.
    intro h
    obtain ⟨hfirst, hsame, hleast⟩ := h
    rw [List.length_take, lt_min_iff] at hfirst
    rw [List.getElem_take, beq_iff_eq] at hsame
    refine ⟨?_, hfirst.1, ?_, ?_⟩
    · rw [hname, hx, Option.map_some]
    · rw [hname, List.getElem?_eq_getElem hfirst.2, Option.map_some, hsame]
    · intro k hk heq
      have hk' := hleast k hk
      rw [List.getElem_take, beq_iff_eq] at hk'
      rw [hname, List.getElem?_eq_getElem (hk.trans hfirst.2), Option.map_some] at heq
      exact hk' (Option.some.inj heq)
  · intro h
    have hbefore : first < i := h.before
    have hlength : first < xs.length := hbefore.trans hi
    have hsame := h.same
    rw [hname, List.getElem?_eq_getElem hlength, Option.map_some] at hsame
    refine ⟨by rw [List.length_take]; omega, ?_, ?_⟩
    · rw [List.getElem_take, beq_iff_eq]
      exact Option.some.inj hsame
    · intro k hk
      have hleast := h.least k hk
      rw [hname, List.getElem?_eq_getElem (hk.trans hlength), Option.map_some] at hleast
      rw [List.getElem_take, beq_iff_eq]
      exact fun heq => hleast (congrArg some heq)

/-! ## Plugins enabled twice -/

/-- The report that the plugin at a place is enabled already at another one. -/
def alreadyEnabled (i first : Nat) (name : String) : Diagnostic where
  field := integrationField i
  message := "integration " ++ ticked name ++ " is already enabled at " ++
    (integrationField first).text

/-- Places of different plugins are written differently. -/
theorem integrationField_injective {i j : Nat} (h : integrationField i = integrationField j) :
    i = j := by
  have htext := congrArg (fun field => field.text.toList) h
  simp only [integrationField, FieldPath.index, String.toList_append,
    List.append_cancel_right_eq, List.append_cancel_left_eq] at htext
  have hrepr (n : Nat) : (toString n).toList = Nat.toDigits 10 n := String.toList_ofList
  rw [hrepr, hrepr] at htext
  have hdigits := congrArg Numeral.natOfDigits htext
  rwa [Numeral.natOfDigits_toDigits, Numeral.natOfDigits_toDigits] at hdigits

/-- No option of a plugin is reported in the words of a plugin that is enabled twice. -/
theorem errorsLike_options (field : FieldPath) (x : Integration) :
    (x.diagnostics field).errorsLike "integration " = [] := by
  -- The first word of each message is another one.
  cases x with
  | tailwind options =>
    show (Integration.checkTailwind field options).errorsLike _ = _
    simp only [Integration.checkTailwind]
    split
    · exact Diagnostics.errorsLike_of_head rfl rfl
        (head_append (head_append (head_append rfl _) _) _) (by decide)
    · apply Diagnostics.errorsLike_when
      exact Diagnostics.errorsLike_of_head rfl rfl
        (head_append (head_append (head_append rfl _) _) _) (by decide)
  | react options =>
    have hpatterns (field : FieldPath) (patterns : List String) :
        (Integration.checkPatterns field patterns).errorsLike "integration " = [] := by
      apply Diagnostics.errorsLike_forItems
      intro i pattern
      cases Glob.parse pattern with
      | ok tokens => rfl
      | error e =>
        exact Diagnostics.errorsLike_of_head rfl rfl
          (head_append (head_append (head_append rfl _) _) _) (by decide)
    rw [Integration.diagnostics, Diagnostics.errorsLike_append, hpatterns, hpatterns]
    rfl
  | mdx options => rfl
  | sitemap options =>
    show (Integration.checkPriority field options.priority).errorsLike _ = _
    unfold Integration.checkPriority
    split
    · rfl
    · apply Diagnostics.errorsLike_when
      exact Diagnostics.errorsLike_of_head rfl rfl (head_append (head_append rfl _) _) (by decide)
  | node mode => rfl

/-- One plugin is reported as enabled twice if its name stands earlier, and with the first place
where it does. -/
theorem errorsLike_checkIntegration (c : SiteConfig) (i : Nat) (x : Integration) :
    (c.checkIntegration i x).errorsLike "integration " =
      ((firstIndex? (c.integrations.take i) x.name).map fun first =>
        alreadyEnabled i first x.name).toList := by
  -- The other reports about one plugin start with other words.
  have hruntime : (Diagnostics.errorWithHint (integrationField i)
      (ticked x.name ++ " requires a server runtime but output is " ++ ticked c.output.name)
      "set output = \"server\" or \"hybrid\", or remove the integration").errorsLike
        "integration " = [] :=
    Diagnostics.errorsLike_of_head rfl rfl
      (head_append (head_append (head_append (head_append rfl _) _) _) _) (by decide)
  have hsite : (Diagnostics.errorWithHint (integrationField i)
      (ticked x.name ++ " needs absolute URLs")
      "set `site` to the deployed origin").errorsLike "integration " = [] :=
    Diagnostics.errorsLike_of_head rfl rfl (head_append (head_append (head_append rfl _) _) _)
      (by decide)
  rw [checkIntegration]
  simp only [Diagnostics.errorsLike_append, errorsLike_options,
    Diagnostics.errorsLike_when hruntime, Diagnostics.errorsLike_when hsite, List.nil_append,
    List.append_nil]
  cases firstIndex? (c.integrations.take i) x.name with
  | none => rfl
  | some first =>
    have hmessage : "integration " ++ ticked x.name ++ " is already enabled at " ++
        (integrationField first).text = "integration " ++ (ticked x.name ++
          " is already enabled at " ++ (integrationField first).text) := by
      simp only [String.append_assoc]
    show (Diagnostics.error _ ("integration " ++ _ ++ _ ++ _)).errorsLike _ = _
    rw [hmessage, Diagnostics.errorsLike_error, Option.map_some, alreadyEnabled, hmessage]
    rfl

/-- The reports about plugins that are enabled twice. -/
theorem mem_errorsLike_checkIntegrations {c : SiteConfig} {d : Diagnostic} :
    d ∈ c.checkIntegrations.errorsLike "integration " ↔
      ∃ i first name, Repeats (c.integrations.map Integration.name) i first name ∧
        d = alreadyEnabled i first name := by
  -- Neither do the reports about all plugins together start with these words.
  have hadapters : c.checkAdapters.errorsLike "integration " = [] := by
    rw [checkAdapters, Diagnostics.errorsLike_append]
    apply List.append_eq_nil_iff.2
    constructor
    · apply Diagnostics.errorsLike_when
      exact Diagnostics.errorsLike_of_head rfl rfl (head_append (head_append rfl _) _) (by decide)
    · split
      · have honly : "only one server adapter may be enabled".toList.head? = some 'o' := by decide
        exact Diagnostics.errorsLike_of_head rfl rfl honly (by decide)
      · rfl
  rw [checkIntegrations, Diagnostics.errorsLike_append, hadapters, List.append_nil,
    Diagnostics.forItems, Diagnostics.errorsLike_concat, List.flatMap_map]
  simp only [List.mem_flatMap, errorsLike_checkIntegration, Option.mem_toList, Prod.exists,
    Option.map_eq_some_iff, List.mk_mem_zipIdx_iff_getElem?]
  constructor
  · intro h
    obtain ⟨x, i, hx, first, hfirst, hd⟩ := h
    exact ⟨i, first, x.name, (firstIndex?_take_eq_some_iff hx).1 hfirst, hd.symm⟩
  · intro h
    obtain ⟨i, first, name, hrepeats, hd⟩ := h
    have hhere := hrepeats.here
    rw [List.getElem?_map, Option.map_eq_some_iff] at hhere
    obtain ⟨x, hx, rfl⟩ := hhere
    exact ⟨x, i, hx, first, (firstIndex?_take_eq_some_iff hx).2 hrepeats, hd.symm⟩

/-! ## Plugins that fit -/

/-- The plugins of a record fit: their options are as they should be, none is enabled twice, and
they go with the render mode and the address. -/
structure IntegrationsFit (c : SiteConfig) : Prop where
  options : ∀ (i : Nat) (x : Integration), c.integrations[i]? = some x →
    (x.diagnostics (integrationField i)).errors = []
  distinct : (c.integrations.map Integration.name).Nodup
  static : c.output = .static → ∀ mode, Integration.node mode ∉ c.integrations
  adapter : c.output = .server ∨ c.output = .hybrid →
    ∃! i : Nat, ∃ mode, c.integrations[i]? = some (Integration.node mode)
  address : ∀ options, Integration.sitemap options ∈ c.integrations → c.site.isSome = true

theorem needsServer_iff {mode : RenderMode} :
    mode.needsServer = true ↔ mode = .server ∨ mode = .hybrid := by
  cases mode <;> simp [RenderMode.needsServer]

theorem isAdapter_iff {x : Integration} : x.isAdapter = true ↔ ∃ mode, x = .node mode := by
  cases x <;> simp [Integration.isAdapter]

theorem needsSite_iff {x : Integration} : x.needsSite = true ↔ ∃ options, x = .sitemap options := by
  cases x <;> simp [Integration.needsSite]

/-- One plugin passes when its options do, no plugin before it has its name, and the record has
the server and the address that it needs. -/
theorem errors_checkIntegration_eq_nil_iff {c : SiteConfig} {i : Nat} {x : Integration} :
    (c.checkIntegration i x).errors = [] ↔
      (x.diagnostics (integrationField i)).errors = [] ∧
        firstIndex? (c.integrations.take i) x.name = none ∧
        (x.isAdapter = true → c.output.needsServer = true) ∧
        (x.needsSite = true → c.site.isSome = true) := by
  rw [checkIntegration]
  simp only [Diagnostics.errors_append_eq_nil_iff, Diagnostics.errors_when_eq_nil_iff, and_assoc]
  refine and_congr_right fun _ => and_congr ?_ (and_congr ?_ ?_)
  · cases firstIndex? (c.integrations.take i) x.name <;> simp
  · cases x.isAdapter <;> cases c.output.needsServer <;> simp
  · cases x.needsSite <;> cases c.site <;> simp

/-- The places of the adapters are those of the server plugins, each of them once. -/
theorem mem_adapters_iff {c : SiteConfig} {i : Nat} :
    i ∈ c.adapters ↔ ∃ mode, c.integrations[i]? = some (Integration.node mode) := by
  simp only [adapters, List.mem_map, List.mem_filter, Prod.exists, exists_eq_right,
    List.mk_mem_zipIdx_iff_getElem?, isAdapter_iff]
  constructor
  · intro h
    obtain ⟨x, hx, mode, rfl⟩ := h
    exact ⟨mode, hx⟩
  · intro h
    obtain ⟨mode, hx⟩ := h
    exact ⟨_, hx, mode, rfl⟩

theorem nodup_adapters (c : SiteConfig) : c.adapters.Nodup := by
  have hall : (c.integrations.zipIdx.map Prod.snd).Nodup := by
    rw [List.zipIdx_map_snd]
    exact List.nodup_range'
  exact hall.sublist (List.filter_sublist.map Prod.snd)

/-- The adapters pass when there is one where a server is needed, and not more than one. -/
theorem errors_checkAdapters_eq_nil_iff {c : SiteConfig} :
    c.checkAdapters.errors = [] ↔
      (c.output.needsServer = true → c.adapters ≠ []) ∧ c.adapters.length ≤ 1 := by
  rw [checkAdapters, Diagnostics.errors_append_eq_nil_iff, Diagnostics.errors_when_eq_nil_iff]
  match hadapters : c.adapters with
  | [] => simp
  | [i] => simp
  | i :: j :: rest => simp

/-- Every name comes once exactly when no plugin finds its name before it. -/
theorem nodup_names_iff {xs : List Integration} :
    (xs.map Integration.name).Nodup ↔
      ∀ (i : Nat) (x : Integration), xs[i]? = some x → firstIndex? (xs.take i) x.name = none := by
  rw [nodup_iff_not_repeats]
  constructor
  · intro h i x hx
    cases hfirst : firstIndex? (xs.take i) x.name with
    | none => rfl
    | some first => exact absurd ((firstIndex?_take_eq_some_iff hx).1 hfirst) (h i first x.name)
  · intro h i first name hrepeats
    have hhere := hrepeats.here
    rw [List.getElem?_map, Option.map_eq_some_iff] at hhere
    obtain ⟨x, hx, rfl⟩ := hhere
    have hnone := h i x hx
    rw [(firstIndex?_take_eq_some_iff hx).2 hrepeats] at hnone
    cases hnone

/-- There is one place of a server plugin exactly when there is one adapter. -/
theorem existsUnique_adapter_iff {c : SiteConfig} :
    (∃! i : Nat, ∃ mode, c.integrations[i]? = some (Integration.node mode)) ↔
      c.adapters.length = 1 := by
  simp only [← mem_adapters_iff]
  rw [List.length_eq_one_iff]
  constructor
  · intro h
    obtain ⟨i, hi, hunique⟩ := h
    -- The places come once each, so a single one of them is all there is.
    have hperm : c.adapters.Perm [i] := by
      rw [List.perm_ext_iff_of_nodup (nodup_adapters c) (List.nodup_singleton i)]
      intro j
      rw [List.mem_singleton]
      exact ⟨hunique j, fun hj => hj ▸ hi⟩
    exact ⟨i, List.perm_singleton.1 hperm⟩
  · intro h
    obtain ⟨i, hadapters⟩ := h
    refine ⟨i, ?_, ?_⟩
    · rw [hadapters]
      exact List.mem_singleton_self i
    · intro j hj
      rw [hadapters] at hj
      exact List.mem_singleton.1 hj

/-- Where the plugins fit, a server plugin comes with a mode that has a server. -/
theorem IntegrationsFit.needsServer {c : SiteConfig} (h : c.IntegrationsFit) {mode : NodeMode}
    (hmem : Integration.node mode ∈ c.integrations) : c.output.needsServer = true := by
  cases houtput : c.output with
  | static => exact absurd hmem (h.static houtput mode)
  | server => rfl
  | hybrid => rfl

/-- Where the plugins fit, a mode with a server has one adapter. -/
theorem IntegrationsFit.length_adapters {c : SiteConfig} (h : c.IntegrationsFit)
    (hserver : c.output.needsServer = true) : c.adapters.length = 1 :=
  existsUnique_adapter_iff.1 (h.adapter (needsServer_iff.1 hserver))

/-- Where the plugins fit, there is at most one adapter. -/
theorem IntegrationsFit.length_adapters_le {c : SiteConfig} (h : c.IntegrationsFit) :
    c.adapters.length ≤ 1 := by
  cases hadapters : c.adapters with
  | nil => exact Nat.zero_le 1
  | cons i rest =>
    have hi : i ∈ c.adapters := by
      rw [hadapters]
      exact List.mem_cons_self
    obtain ⟨mode, hmode⟩ := mem_adapters_iff.1 hi
    have hserver := h.needsServer (List.mem_of_getElem? hmode)
    exact hadapters ▸ (h.length_adapters hserver).le

/-- The check of the plugins reports no error exactly when they fit. -/
theorem errors_checkIntegrations_eq_nil_iff (c : SiteConfig) :
    c.checkIntegrations.errors = [] ↔ c.IntegrationsFit := by
  rw [checkIntegrations, Diagnostics.errors_append_eq_nil_iff,
    Diagnostics.errors_forItems_eq_nil_iff, errors_checkAdapters_eq_nil_iff]
  simp only [errors_checkIntegration_eq_nil_iff]
  constructor
  · intro h
    obtain ⟨hitems, hsome, hone⟩ := h
    refine ⟨?_, ?_, ?_, ?_, ?_⟩
    · intro i x hx
      exact (hitems i x hx).1
    · rw [nodup_names_iff]
      intro i x hx
      exact (hitems i x hx).2.1
    · intro hstatic mode hmem
      obtain ⟨i, hi⟩ := List.mem_iff_getElem?.1 hmem
      have hserver := (hitems i _ hi).2.2.1 rfl
      rw [hstatic] at hserver
      cases hserver
    · intro hmode
      have hpos := List.length_pos_of_ne_nil (hsome (needsServer_iff.2 hmode))
      exact existsUnique_adapter_iff.2 (le_antisymm hone hpos)
    · intro options hmem
      obtain ⟨i, hi⟩ := List.mem_iff_getElem?.1 hmem
      exact (hitems i _ hi).2.2.2 rfl
  · intro h
    refine ⟨?_, ?_, h.length_adapters_le⟩
    · intro i x hx
      refine ⟨h.options i x hx, nodup_names_iff.1 h.distinct i x hx, ?_, ?_⟩
      · intro hx'
        obtain ⟨mode, rfl⟩ := isAdapter_iff.1 hx'
        exact h.needsServer (List.mem_of_getElem? hx)
      · intro hx'
        obtain ⟨options, rfl⟩ := needsSite_iff.1 hx'
        exact h.address options (List.mem_of_getElem? hx)
    · intro hserver
      exact List.ne_nil_of_length_eq_add_one (h.length_adapters hserver)

/-- The check of the plugins finds an error exactly in the records whose plugins do not fit. Of
the plugins it reports as enabled already those whose names stand earlier in the list, each at
its place, and with the first place of the name. -/
theorem integrations_checked (c : SiteConfig) :
    (c.checkIntegrations.errors = [] ↔ c.IntegrationsFit) ∧
    (∀ (i : Nat) (d : Diagnostic),
      (d ∈ c.checkIntegrations.errorsLike "integration " ∧ d.field = integrationField i) ↔
        ∃ first name, Repeats (c.integrations.map Integration.name) i first name ∧
          d = alreadyEnabled i first name) ∧
    (∀ i : Nat,
      (∃ d ∈ c.checkIntegrations.errorsLike "integration ", d.field = integrationField i) ↔
        ∃ x, c.integrations[i]? = some x ∧
          ∃ j < i, ∃ y, c.integrations[j]? = some y ∧ y.name = x.name) := by
  have hreports (i : Nat) (d : Diagnostic) :
      (d ∈ c.checkIntegrations.errorsLike "integration " ∧ d.field = integrationField i) ↔
        ∃ first name, Repeats (c.integrations.map Integration.name) i first name ∧
          d = alreadyEnabled i first name := by
    rw [mem_errorsLike_checkIntegrations]
    constructor
    · intro h
      obtain ⟨⟨k, first, name, hrepeats, rfl⟩, hfield⟩ := h
      obtain rfl : k = i := integrationField_injective hfield
      exact ⟨first, name, hrepeats, rfl⟩
    · intro h
      obtain ⟨first, name, hrepeats, rfl⟩ := h
      exact ⟨⟨i, first, name, hrepeats, rfl⟩, rfl⟩
  refine ⟨errors_checkIntegrations_eq_nil_iff c, hreports, ?_⟩
  intro i
  constructor
  · intro h
    obtain ⟨d, hd⟩ := h
    -- A repetition with its first place is more than an earlier plugin of the same name.
    obtain ⟨first, name, hrepeats, -⟩ := (hreports i d).1 hd
    obtain ⟨hhere, j, hji, hsame⟩ := exists_repeats_iff.1 ⟨first, hrepeats⟩
    rw [List.getElem?_map, Option.map_eq_some_iff] at hhere hsame
    obtain ⟨x, hx, hxname⟩ := hhere
    obtain ⟨y, hy, hyname⟩ := hsame
    exact ⟨x, hx, j, hji, y, hy, hyname.trans hxname.symm⟩
  · intro h
    obtain ⟨x, hx, j, hji, y, hy, hname⟩ := h
    have hhere : (c.integrations.map Integration.name)[i]? = some x.name := by
      rw [List.getElem?_map, hx, Option.map_some]
    have hsame : (c.integrations.map Integration.name)[j]? = some x.name := by
      rw [List.getElem?_map, hy, Option.map_some, hname]
    obtain ⟨first, hfirst⟩ := exists_repeats_iff.2 ⟨hhere, j, hji, hsame⟩
    obtain ⟨hd, hfield⟩ := (hreports i (alreadyEnabled i first x.name)).2 ⟨first, _, hfirst, rfl⟩
    exact ⟨_, hd, hfield⟩

end SiteConfig

end DocSite
