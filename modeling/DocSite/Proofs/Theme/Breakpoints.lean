import DocSite.Proofs.Diagnostics
import DocSite.Proofs.Theme.Css
import DocSite.Proofs.Theme.Length
import DocSite.Theme.Container

/-!
# Breakpoints of the page container

  The container has one media query a screen, which holds from the width of the
  screen on and makes it the greatest width of the container. Of the queries that
  hold, the last one decides. The check compares a screen with the one before only,
  but if it has nothing to say, then the screens grow from the first to the last, so
  the query that decides is that of the largest screen that fits. Widths are taken
  as the exact fractions that are written.
-/

namespace DocSite

open DocSite.Text

namespace Css

/-- Whether a node is a block for which its head sets a condition. -/
def Node.isAtRule : Node → Bool
  | .block head _ => head.head? == some '@'
  | .declaration _ _ => false

/-- The feature that a media query asks for, and its value: what stands between the parentheses,
in front of a colon and behind it. -/
def mediaFeature? (head : List Char) : Option (List Char × List Char) := do
  let condition ← dropStart? "@media".toList head
  let inner ← dropEnd? [')'] (← dropStart? ['('] (trimBoth condition))
  let (feature, value) ← splitOnce ':' inner
  return (trimBoth feature, trimBoth value)

theorem mediaFeature?_eq {feature value : List Char} (h : ':' ∉ feature) :
    mediaFeature? ("@media".toList ++ ' ' :: '(' :: (feature ++ ':' :: (value ++ [')']))) =
      some (trimBoth feature, trimBoth value) := by
  -- The parentheses are no blanks, so trimming stops at them.
  have hblank : trimBoth (' ' :: '(' :: (feature ++ ':' :: (value ++ [')']))) =
      '(' :: (feature ++ ':' :: (value ++ [')'])) := by
    rw [trimBoth_cons_blank (by decide)]
    apply trimBoth_of_ends
    · intro c hc
      obtain rfl := Option.some.inj hc
      decide
    · intro c hc
      have hlast : '(' :: (feature ++ ':' :: (value ++ [')'])) =
          ('(' :: (feature ++ ':' :: value)) ++ [')'] := by simp
      rw [hlast, List.getLast?_concat] at hc
      obtain rfl := Option.some.inj hc
      decide
  have hinner : feature ++ ':' :: (value ++ [')']) = (feature ++ ':' :: value) ++ [')'] := by simp
  have hopen : dropStart? ['('] ('(' :: (feature ++ ':' :: (value ++ [')']))) =
      some ((feature ++ ':' :: value) ++ [')']) := by
    rw [← hinner]
    exact dropStart?_append ['('] _
  simp only [mediaFeature?, dropStart?_append, hblank, hopen, dropEnd?_append, splitOnce_append h,
    Option.bind_eq_bind, Option.bind_some, Option.pure_def]

end Css

namespace Container

/-! ## Media queries in a stylesheet -/

/-- A media query of the container: the width of the viewport from which on it holds, and the
greatest width that it gives to the container, both in pixels. -/
structure Query where
  minWidth : Rat
  maxWidth : Rat

/-- The pixels of a written width. -/
def width? (text : String) : Option Rat := (Length.parse text).toOption.map Length.toPx

/-- The media query of the container that a block of a stylesheet is, if it is one. -/
def query? : Css.Node → Option Query
  | .block head [.block selector [.declaration property value]] => do
    let (feature, bound) ← Css.mediaFeature? head
    if feature = "min-width".toList ∧ selector = ".container".toList ∧
        property = "max-width".toList then
      return ⟨← width? (String.ofList bound), ← width? (String.ofList value)⟩
    else none
  | _ => none

/-- The media queries of a stylesheet, in order; none if there is any other block with a condition
than those of the container. -/
def queries? (css : String) : Option (List Query) := do
  let nodes ← Css.nodes? css
  (nodes.filter Css.Node.isAtRule).mapM query?

/-- The query that decides about a viewport: the last one of those that hold for its width. -/
def deciding? (queries : List Query) (viewport : Rat) : Option Query :=
  (queries.filter fun q => q.minWidth ≤ viewport).getLast?

/-- The widths of the screens in pixels, in order. -/
def screenWidths (c : Container) : List Rat := c.screens.values.filterMap width?

/-! ## Widths -/

theorem width?_eq_some_iff {text : String} {w : Rat} :
    width? text = some w ↔ ∃ length, Length.parse text = .ok length ∧ length.toPx = w := by
  rw [width?]
  cases Length.parse text with
  | error e => simp [Except.toOption]
  | ok length => simp [Except.toOption]

/-- No width is passed over if all texts have one. -/
theorem map_width? {texts : List String} (h : ∀ text ∈ texts, ∃ w, width? text = some w) :
    texts.map width? = (texts.filterMap width?).map some := by
  induction texts with
  | nil => rfl
  | cons text texts ih =>
    obtain ⟨⟨w, hw⟩, hrest⟩ := List.forall_mem_cons.1 h
    rw [List.map_cons, List.filterMap_cons_some hw, List.map_cons, hw, ih hrest]

theorem width?_trimBoth (text : String) :
    width? (String.ofList (trimBoth text.toList)) = width? text := by
  have hparse := Length.parse_trim text
  rw [trim] at hparse
  rw [width?, width?, hparse]

theorem isPlain_of_width? {text : String} {w : Rat} (h : width? text = some w) :
    ∀ c ∈ text.toList, Css.isPlain c = true := by
  obtain ⟨length, hparse, -⟩ := width?_eq_some_iff.1 h
  intro c hc
  rcases Length.chars_of_parse hparse c hc with hblank | hchar
  · exact Css.isPlain_of_isBlank hblank
  · exact Css.isPlain_of_class (by decide) hchar

/-! ## The queries of a container -/

/-- The head of the media query of a screen. -/
def mediaHead (text : String) : List Char := "@media (min-width: ".toList ++ (text.toList ++ [')'])

theorem mediaFeature?_mediaHead (text : String) :
    Css.mediaFeature? (mediaHead text) = some ("min-width".toList, trimBoth text.toList) := by
  have hfront : "@media (min-width: ".toList =
      "@media".toList ++ ' ' :: '(' :: ("min-width".toList ++ [':', ' ']) := by decide
  have hpieces (media feature width : List Char) :
      media ++ ' ' :: '(' :: (feature ++ [':', ' ']) ++ (width ++ [')']) =
        media ++ ' ' :: '(' :: (feature ++ ':' :: (' ' :: width ++ [')'])) := by simp
  have hfeature : ':' ∉ "min-width".toList := by decide
  have htrim : trimBoth "min-width".toList = "min-width".toList := by decide
  unfold mediaHead
  rw [hfront, hpieces, Css.mediaFeature?_eq hfeature, htrim,
    trimBoth_cons_blank (by decide)]

/-- The block of a screen. -/
def screenNode (text : String) : Css.Node :=
  .block (mediaHead text)
    [.block ".container".toList [.declaration "max-width".toList (trimBoth text.toList)]]

theorem query?_screenNode (text : String) :
    query? (screenNode text) = (width? text).map fun w => ⟨w, w⟩ := by
  rw [screenNode, query?, mediaFeature?_mediaHead]
  simp only [Option.bind_eq_bind, Option.bind_some, and_self, if_true, width?_trimBoth]
  cases width? text with
  | none => rfl
  | some w => rfl

theorem isAtRule_screenNode (text : String) : (screenNode text).isAtRule = true := by
  unfold screenNode mediaHead
  simp [Css.Node.isAtRule]

/-- The blocks of screens are all kept, and each is the query of its width. -/
theorem mapM_query? {texts : List String} {widths : List Rat}
    (h : texts.map width? = widths.map some) :
    ((texts.map screenNode).filter Css.Node.isAtRule).mapM query? =
      some (widths.map fun w => ⟨w, w⟩) := by
  have hall : ∀ node ∈ texts.map screenNode, node.isAtRule = true :=
    List.forall_mem_map.2 fun text _ => isAtRule_screenNode text
  rw [List.filter_eq_self.2 hall]
  induction texts generalizing widths with
  | nil =>
    rw [List.map_nil, eq_comm, List.map_eq_nil_iff] at h
    rw [h]
    rfl
  | cons text texts ih =>
    cases widths with
    | nil => cases h
    | cons w widths =>
      -- All screens are queries, and their widths go with them one by one.
      obtain ⟨hw, hrest⟩ := List.cons.inj h
      rw [List.map_cons, List.mapM_cons, query?_screenNode, hw,
        ih hrest fun node hnode => hall node (List.mem_cons_of_mem _ hnode)]
      rfl

/-- The property of the queries is written with a hyphen. -/
theorem kebabCase_maxWidth : (Css.kebabCase "maxWidth").toList = "max-width".toList := by
  decide +kernel

theorem isWritable_maxWidth : Css.IsWritable "maxWidth" := .of_all (by decide +kernel)

theorem isPlain_selector :
    ∀ c ∈ ".container".toList, Css.isPlain c = true ∧ isBlank c = false := by
  have hall : (".container".toList.all fun c => Css.isPlain c && !isBlank c) = true := by
    decide +kernel
  simpa only [List.all_eq_true, Bool.and_eq_true, Bool.not_eq_true'] using hall

theorem isPlain_mediaHead {text : String} (h : ∀ c ∈ text.toList, Css.isPlain c = true) :
    ∀ c ∈ mediaHead text, Css.isPlain c = true := by
  have hfront : ("@media (min-width: ".toList.all Css.isPlain) = true := by decide +kernel
  unfold mediaHead
  rw [List.forall_mem_append, List.forall_mem_append, List.forall_mem_singleton]
  exact ⟨List.all_eq_true.1 hfront, h, by decide⟩

theorem reads_mediaQuery {text : String} (h : ∀ c ∈ text.toList, Css.isPlain c = true) :
    Css.Reads (mediaQuery text).toList [screenNode text] := by
  have hdeclarations : ∀ d ∈ [("maxWidth", text)],
      Css.IsWritable d.1 ∧ ∀ c ∈ d.2.toList, Css.isPlain c = true :=
    List.forall_mem_singleton.2 ⟨isWritable_maxWidth, h⟩
  have hrule := Css.reads_rule isPlain_selector hdeclarations 1
  have hstart : ∀ c ∈ (mediaHead text).head?, isBlank c = false := by
    unfold mediaHead
    intro c hc
    obtain rfl : '@' = c := by simpa using hc
    decide
  have hend : ∀ c ∈ (mediaHead text).getLast?, isBlank c = false := by
    unfold mediaHead
    intro c hc
    rw [← List.append_assoc, List.getLast?_concat] at hc
    obtain rfl := Option.some.inj hc
    decide
  have hquery := (Css.reads_block (isPlain_mediaHead h) hstart hend
    (Css.reads_newline.append hrule)).append Css.reads_newline
  -- The texts around the width and the rule are variables here, so that none is compared
  -- with another one.
  have htext (front close last rule : String) (hclose : close.toList = [')', ' ', '\x7b', '\n'])
      (hlast : last.toList = ['\x7d', '\n']) : (front ++ text ++ close ++ rule ++ last).toList =
      (front.toList ++ (text.toList ++ [')'])) ++ ' ' :: '\x7b' ::
        (['\n'] ++ rule.toList ++ ['\x7d']) ++ ['\n'] := by
    simp [hclose, hlast]
  unfold mediaQuery screenNode
  rw [htext _ _ _ _ (by decide) (by decide), ← kebabCase_maxWidth]
  exact hquery

theorem isWritable_of_mem_declarations {c : Container} :
    ∀ d ∈ c.declarations, Css.IsWritable d.1 := by
  have hwidth : Css.IsWritable "width" := .of_all (by decide +kernel)
  have hmarginRight : Css.IsWritable "marginRight" := .of_all (by decide +kernel)
  have hmarginLeft : Css.IsWritable "marginLeft" := .of_all (by decide +kernel)
  have hpaddingRight : Css.IsWritable "paddingRight" := .of_all (by decide +kernel)
  have hpaddingLeft : Css.IsWritable "paddingLeft" := .of_all (by decide +kernel)
  unfold declarations
  cases c.center <;> cases c.padding <;>
    simp [hwidth, hmarginRight, hmarginLeft, hpaddingRight, hpaddingLeft]

theorem value_of_mem_declarations {c : Container} {d : String × String}
    (h : d ∈ c.declarations) : d.2 = "100%" ∨ d.2 = "auto" ∨ d.2 ∈ c.padding := by
  simp only [declarations, List.mem_append, List.mem_singleton] at h
  rcases h with (rfl | hmargin) | hpadding
  · exact .inl rfl
  · split at hmargin
    · simp only [List.mem_cons, List.not_mem_nil, or_false] at hmargin
      rcases hmargin with rfl | rfl
      · exact .inr (.inl rfl)
      · exact .inr (.inl rfl)
    · cases hmargin
  · cases hc : c.padding with
    | none => simp [hc] at hpadding
    | some padding =>
      simp only [hc, List.mem_cons, List.not_mem_nil, or_false] at hpadding
      rcases hpadding with rfl | rfl
      · exact .inr (.inr rfl)
      · exact .inr (.inr rfl)

/-- The rule that holds on every screen is a block below the selector of the container. -/
theorem reads_declarations {c : Container}
    (h : ∀ text ∈ c.padding, ∀ ch ∈ text.toList, Css.isPlain ch = true) :
    ∃ body, Css.Reads (Css.rule 0 ".container" c.declarations).toList
      [.block ".container".toList body] := by
  have hall : ("100%".toList.all Css.isPlain) = true := by decide +kernel
  have hauto : ("auto".toList.all Css.isPlain) = true := by decide +kernel
  have hvalue : ∀ d ∈ c.declarations, ∀ ch ∈ d.2.toList, Css.isPlain ch = true := by
    rw [List.all_eq_true] at hall hauto
    intro d hd
    rcases value_of_mem_declarations hd with hwidth | hmargin | hpadding
    · rw [hwidth]
      exact hall
    · rw [hmargin]
      exact hauto
    · exact h d.2 hpadding
  exact ⟨_, Css.reads_rule isPlain_selector
    (fun d hd => ⟨isWritable_of_mem_declarations d hd, hvalue d hd⟩) 0⟩

/-- The queries of the stylesheet are those of the screens, in their order. -/
theorem queries?_toCss {c : Container} (hpadding : ∀ text ∈ c.padding, ∃ w, width? text = some w)
    (hscreens : ∀ text ∈ c.screens.values, ∃ w, width? text = some w) :
    queries? c.toCss = some (c.screenWidths.map fun w => ⟨w, w⟩) := by
  obtain ⟨body, hbase⟩ := reads_declarations fun text htext =>
    isPlain_of_width? (hpadding text htext).choose_spec
  have hqueries : Css.Reads (c.screens.values.flatMap fun text => (mediaQuery text).toList)
      (c.screens.values.map screenNode) :=
    Css.reads_flatMap fun text htext =>
      reads_mediaQuery (isPlain_of_width? (hscreens text htext).choose_spec)
  have hread := hbase.append hqueries
  -- The stylesheet is the rule of the container and then one query after the other.
  have htext : c.toCss.toList = (Css.rule 0 ".container" c.declarations).toList ++
      c.screens.values.flatMap fun text => (mediaQuery text).toList := by
    unfold toCss
    rw [String.toList_append, String.toList_join, List.flatMap_map]
  rw [← htext] at hread
  have hselector : (Css.Node.block ".container".toList body).isAtRule ≠ true := by
    simp [Css.Node.isAtRule]
  rw [queries?, Css.nodes?_of_reads hread, Option.bind_eq_bind, Option.bind_some,
    List.singleton_append, List.filter_cons_of_neg hselector]
  exact mapM_query? (map_width? hscreens)

/-! ## What the check finds -/

theorem exists_width_of_checkPadding {padding : Option String}
    (h : (checkPadding padding).errors = []) : ∀ text ∈ padding, ∃ w, width? text = some w := by
  rintro text rfl
  rw [checkPadding, Option.map_some] at h
  cases hparse : Length.parse text with
  | ok length => exact ⟨length.toPx, width?_eq_some_iff.2 ⟨length, hparse, rfl⟩⟩
  | error e => simp [hparse] at h

/-- The check reports what is no width. -/
theorem exists_width_of_checkScreens {previous : Option (String × Rat)}
    {screens : List (String × String)} (h : (checkScreens previous screens).errors = []) :
    ∀ screen ∈ screens, ∃ w, width? screen.2 = some w := by
  induction screens generalizing previous with
  | nil => exact fun screen hscreen => absurd hscreen List.not_mem_nil
  | cons screen rest ih =>
    obtain ⟨name, text⟩ := screen
    rw [checkScreens] at h
    cases hparse : Length.parse text with
    | error e => simp [hparse] at h
    | ok length =>
      simp only [hparse, Diagnostics.errors_append, List.append_eq_nil_iff] at h
      rw [List.forall_mem_cons]
      exact ⟨⟨length.toPx, width?_eq_some_iff.2 ⟨length, hparse, rfl⟩⟩, ih h.2⟩

/-- Without a warning no screen is narrower than the one before it, if both have widths. -/
theorem isChain_of_checkScreens {previous : Option (String × Rat)}
    {screens : List (String × String)} (h : (checkScreens previous screens).warnings = []) :
    ((previous.map Prod.snd).toList ++ (screens.map Prod.snd).filterMap width?).IsChain
      (· ≤ ·) := by
  induction screens generalizing previous with
  | nil => cases previous <;> simp
  | cons screen rest ih =>
    obtain ⟨name, text⟩ := screen
    rw [checkScreens] at h
    cases hparse : Length.parse text with
    | error e =>
      -- What has no width is passed over, and the screen before it is compared with the next.
      have hnone : width? text = none := by
        rw [width?, hparse]
        rfl
      simp only [hparse, Diagnostics.warnings_append, List.append_eq_nil_iff] at h
      rw [List.map_cons, List.filterMap_cons_none hnone]
      exact ih h.2
    | ok length =>
      have hsome : width? text = some length.toPx := width?_eq_some_iff.2 ⟨length, hparse, rfl⟩
      simp only [hparse, Diagnostics.warnings_append, List.append_eq_nil_iff] at h
      obtain ⟨hpair, hrest⟩ := h
      have hchain := ih hrest
      rw [List.map_cons, List.filterMap_cons_some hsome]
      cases previous with
      | none => exact hchain
      | some earlier =>
        have hle : earlier.2 ≤ length.toPx := by
          by_contra hlt
          have hless : Measure.less (length.toPx : Rat) earlier.2 = true := by
            simpa [Measure.less] using hlt
          simp [hless, Diagnostics.when, Diagnostics.warning] at hpair
        exact .cons_cons hle hchain

/-! ## The query that decides -/

/-- The last width of an ascending list that is within a bound is the largest one that is. -/
theorem isGreatest_of_getLast? {widths : List Rat} (hsorted : widths.Pairwise (· ≤ ·))
    {bound last : Rat} (hlast : (widths.filter (· ≤ bound)).getLast? = some last) :
    IsGreatest {w | w ∈ widths ∧ w ≤ bound} last := by
  have hmem (w : Rat) : w ∈ widths.filter (· ≤ bound) ↔ w ∈ widths ∧ w ≤ bound := by
    rw [List.mem_filter, decide_eq_true_eq]
  obtain ⟨front, hfront⟩ := List.getLast?_eq_some_iff.1 hlast
  have hordered := hsorted.filter (· ≤ bound)
  rw [hfront, List.pairwise_append] at hordered
  constructor
  · exact (hmem last).1 (by simp [hfront])
  · intro w hw
    rcases List.mem_append.1 (hfront ▸ (hmem w).2 hw) with hbefore | hlast
    · exact hordered.2.2 w hbefore last List.mem_cons_self
    · rw [List.mem_singleton.1 hlast]

/-- For queries that give their own bound as the greatest width, the widths decide. -/
theorem deciding?_map (widths : List Rat) (viewport : Rat) :
    deciding? (widths.map fun w => ⟨w, w⟩) viewport =
      (widths.filter (· ≤ viewport)).getLast?.map fun w => ⟨w, w⟩ := by
  rw [deciding?, List.filter_map, List.getLast?_map]
  rfl

theorem isGreatest_of_deciding? {widths : List Rat} (hsorted : widths.Pairwise (· ≤ ·))
    {viewport : Rat} {q : Query} (h : deciding? (widths.map fun w => ⟨w, w⟩) viewport = some q) :
    IsGreatest {w | w ∈ widths ∧ w ≤ viewport} q.maxWidth := by
  rw [deciding?_map, Option.map_eq_some_iff] at h
  obtain ⟨w, hlast, rfl⟩ := h
  exact isGreatest_of_getLast? hsorted hlast

theorem exists_deciding?_iff {widths : List Rat} {viewport : Rat} :
    (∃ q, deciding? (widths.map fun w => ⟨w, w⟩) viewport = some q) ↔
      ∃ w ∈ widths, w ≤ viewport := by
  rw [deciding?_map, ← Option.isSome_iff_exists, Option.isSome_map, List.getLast?_isSome, ne_eq,
    List.filter_eq_nil_iff]
  simp

/-- If a check has nothing to say, then a query of the stylesheet holds for exactly those viewports
that some screen fits in, and the last one that holds gives the container the width of the largest
screen that fits. -/
theorem breakpoints_in_order {c : Container} (herrors : (c.diagnosticsIn Rat).errors = [])
    (hwarnings : (c.diagnosticsIn Rat).warnings = []) (viewport : Rat) :
    c.screens.values.map width? = c.screenWidths.map some ∧
      ∃ queries, queries? c.toCss = some queries ∧
        ((∃ q, deciding? queries viewport = some q) ↔ ∃ w ∈ c.screenWidths, w ≤ viewport) ∧
        ∀ q, deciding? queries viewport = some q →
          IsGreatest {w | w ∈ c.screenWidths ∧ w ≤ viewport} q.maxWidth := by
  rw [diagnosticsIn, Diagnostics.errors_append, List.append_eq_nil_iff] at herrors
  rw [diagnosticsIn, Diagnostics.warnings_append, List.append_eq_nil_iff] at hwarnings
  have hscreens : ∀ text ∈ c.screens.values, ∃ w, width? text = some w := by
    rw [Table.values, List.forall_mem_map]
    exact exists_width_of_checkScreens herrors.2
  have hsorted : c.screenWidths.Pairwise (· ≤ ·) :=
    List.isChain_iff_pairwise.1 (isChain_of_checkScreens hwarnings.2)
  refine ⟨map_width? hscreens, _,
    queries?_toCss (exists_width_of_checkPadding herrors.1) hscreens, exists_deciding?_iff, ?_⟩
  intro q hq
  exact isGreatest_of_deciding? hsorted hq

/-- Screens in units of three kinds, seen through a viewport of 800 pixels. -/
theorem breakpoints_in_order_mixed :
    let c : Container :=
      ⟨true, some "2rem", .ofList [("sm", "40rem"), ("md", " 768px "), ("xl", "80em")]⟩
    (c.diagnosticsIn Rat).errors = [] ∧ (c.diagnosticsIn Rat).warnings = [] ∧
      ∃ queries, queries? c.toCss = some queries ∧
        ∃ q, deciding? queries 800 = some q ∧ q.maxWidth = 768 := by
  intro c
  have herrors : (c.diagnosticsIn Rat).errors = [] := by decide +kernel
  have hwarnings : (c.diagnosticsIn Rat).warnings = [] := by decide +kernel
  have hwidths : c.screenWidths = [640, 768, 1280] := by decide +kernel
  obtain ⟨-, queries, hqueries, hsome, hgreatest⟩ := breakpoints_in_order herrors hwarnings 800
  rw [hwidths] at hsome hgreatest
  obtain ⟨q, hq⟩ := hsome.2 ⟨640, by decide, by decide⟩
  refine ⟨herrors, hwarnings, queries, hqueries, q, hq, ?_⟩
  have hfits : IsGreatest {w : Rat | w ∈ [640, 768, 1280] ∧ w ≤ 800} 768 := by
    -- Of the three widths, two fit, and this is the larger one.
    refine ⟨by decide +kernel, ?_⟩
    rintro w ⟨hw, hle⟩
    have hall : ∀ w ∈ ([640, 768, 1280] : List Rat), w ≤ 800 → w ≤ 768 := by decide +kernel
    exact hall w hw hle
  exact (hgreatest q hq).unique hfits

end Container

end DocSite
