import DocSite.Proofs.Text
import DocSite.Theme.Typography

/-!
# Nesting below lists of selectors

  A key is nested in a parent as a text, while a text with commas stands for several
  selectors. The selectors between the commas of the result are the combinations of the
  parents with the keys as long as one parent stands for every ampersand, or nothing
  stands around it. In a list of several parents only the last one gets the key, and
  only the first key of a list is put below a parent.
-/

namespace DocSite

open DocSite.Text

/-! ## Lists of selectors -/

/-- A selector that can stand in a list: it has no comma and no blanks around it. -/
structure IsSelector (s : String) : Prop where
  nonempty : s ≠ ""
  noComma : ',' ∉ s.toList
  trimmed : trim s = s

/-- A list of selectors, at least one. -/
structure IsSelectorList (selectors : List String) : Prop where
  nonempty : selectors ≠ []
  all : ∀ s ∈ selectors, IsSelector s

/-- The text of a list of selectors. -/
def commaList (selectors : List String) : String := joinText ", " selectors

/-- The selectors between the commas of a text. -/
def alternatives (text : String) : List String := (splitText ',' text).map trim

instance (s : String) : Decidable (IsSelector s) :=
  decidable_of_iff (s ≠ "" ∧ ',' ∉ s.toList ∧ trim s = s)
    ⟨fun ⟨h, h', h''⟩ => ⟨h, h', h''⟩, fun ⟨h, h', h''⟩ => ⟨h, h', h''⟩⟩

instance (selectors : List String) : Decidable (IsSelectorList selectors) :=
  decidable_of_iff (selectors ≠ [] ∧ ∀ s ∈ selectors, IsSelector s)
    ⟨fun ⟨h, h'⟩ => ⟨h, h'⟩, fun ⟨h, h'⟩ => ⟨h, h'⟩⟩

namespace IsSelector

theorem of_ends {s : String} (hne : s ≠ "") (hcomma : ',' ∉ s.toList)
    (hhead : ∀ c ∈ s.toList.head?, isBlank c = false)
    (hlast : ∀ c ∈ s.toList.getLast?, isBlank c = false) : IsSelector s := by
  refine ⟨hne, hcomma, ?_⟩
  rw [trim, trimBoth_of_ends hhead hlast, String.ofList_toList]

theorem trimBoth_eq {s : String} (h : IsSelector s) : trimBoth s.toList = s.toList := by
  have htrim := congrArg String.toList h.trimmed
  rwa [trim, String.toList_ofList] at htrim

theorem head {s : String} (h : IsSelector s) : ∀ c ∈ s.toList.head?, isBlank c = false := by
  rw [← h.trimBoth_eq]
  exact (ends_trimBoth s.toList).1

theorem last {s : String} (h : IsSelector s) : ∀ c ∈ s.toList.getLast?, isBlank c = false := by
  rw [← h.trimBoth_eq]
  exact (ends_trimBoth s.toList).2

theorem toList_ne_nil {s : String} (h : IsSelector s) : s.toList ≠ [] := by
  intro hnil
  exact h.nonempty (String.toList_eq_nil_iff.1 hnil)

theorem length_pos {s : String} (h : IsSelector s) : 0 < s.length := by
  exact Nat.pos_of_ne_zero (mt String.length_eq_zero_iff.1 h.nonempty)

/-- A text that begins as one selector and ends as another is a selector. -/
theorem append {x y z : String} (hx : IsSelector x) (hy : IsSelector y) (hz : ',' ∉ z.toList) :
    IsSelector (x ++ z ++ y) := by
  have hxne := hx.toList_ne_nil
  have hyne := hy.toList_ne_nil
  apply of_ends
  · intro h
    apply hxne
    have := congrArg String.toList h
    simp only [String.toList_append, String.toList_empty, List.append_eq_nil_iff] at this
    exact this.1.1
  · simp only [String.toList_append, List.mem_append]
    rintro ((h | h) | h)
    · exact hx.noComma h
    · exact hz h
    · exact hy.noComma h
  · rw [String.toList_append, String.toList_append, List.append_assoc,
      List.head?_append_of_ne_nil _ hxne]
    exact hx.head
  · rw [String.toList_append, List.getLast?_append_of_ne_nil _ hyne]
    exact hy.last

/-- A selector up to an ampersand in it is a selector, and so is what begins with the ampersand. -/
theorem cut {x y : String} (h : IsSelector (x ++ "&" ++ y)) :
    IsSelector (x ++ "&") ∧ IsSelector ("&" ++ y) := by
  have hblank : isBlank '&' = false := by decide
  have hcomma := h.noComma
  simp only [String.toList_append, List.mem_append, not_or] at hcomma
  constructor
  · apply of_ends
    · simp
    · rw [String.toList_append, List.mem_append]
      exact fun hmem => hmem.elim hcomma.1.1 hcomma.1.2
    · have hhead := h.head
      rwa [String.toList_append, List.head?_append_of_ne_nil _ (by simp)] at hhead
    · simp [hblank]
  · apply of_ends
    · simp
    · rw [String.toList_append, List.mem_append]
      exact fun hmem => hmem.elim hcomma.1.2 hcomma.2
    · simp [hblank]
    · have hlast := h.last
      rwa [String.append_assoc, String.toList_append,
        List.getLast?_append_of_ne_nil _ (by simp)] at hlast

/-- A selector is its own only alternative. -/
theorem alternatives_eq {s : String} (h : IsSelector s) : alternatives s = [s] := by
  rw [alternatives, splitText, splitOn_of_not_mem h.noComma]
  simp [h.trimmed]

end IsSelector

/-- The blank behind a comma belongs to no selector. -/
theorem alternatives_blank_append (y : String) : alternatives (" " ++ y) = alternatives y := by
  have hlist : (" " ++ y).toList = ' ' :: y.toList := by simp
  rw [alternatives, alternatives, splitText, splitText, hlist, splitOn, if_neg (by decide)]
  cases hy : splitOn ',' y.toList with
  | nil => exact absurd hy (splitOn_ne_nil _ _)
  | cons piece rest =>
    have hpiece : trim (String.ofList (' ' :: piece)) = trim (String.ofList piece) := by
      rw [trim, trim, String.toList_ofList, String.toList_ofList]
      rfl
    simp only [List.map_cons, hpiece]

/-- The alternatives of two texts with a comma between them are those of the one and the other. -/
theorem alternatives_append (x y : String) :
    alternatives (x ++ ", " ++ y) = alternatives x ++ alternatives y := by
  rw [← alternatives_blank_append y]
  have hlist : (x ++ ", " ++ y).toList = x.toList ++ ',' :: (" " ++ y).toList := by
    simp [String.toList_append]
  rw [alternatives, splitText, hlist, splitOn_append_cons, List.map_append, List.map_append]
  rfl

theorem commaList_cons (s : String) {rest : List String} (h : rest ≠ []) :
    commaList (s :: rest) = s ++ ", " ++ commaList rest := by
  cases rest with
  | nil => exact absurd rfl h
  | cons next rest => rfl

/-- A text in front of a list stands in front of its first selector. -/
theorem append_commaList (x s : String) (rest : List String) :
    x ++ commaList (s :: rest) = commaList ((x ++ s) :: rest) := by
  cases rest with
  | nil => rfl
  | cons next rest =>
    rw [commaList_cons s (List.cons_ne_nil _ _), commaList_cons (x ++ s) (List.cons_ne_nil _ _)]
    simp only [String.append_assoc]

theorem commaList_append {front back : List String} (hfront : front ≠ []) (hback : back ≠ []) :
    commaList (front ++ back) = commaList front ++ ", " ++ commaList back := by
  induction front with
  | nil => exact absurd rfl hfront
  | cons s front ih =>
    rw [List.cons_append, commaList_cons s (List.append_ne_nil_of_right_ne_nil _ hback)]
    cases front with
    | nil => rfl
    | cons next front =>
      rw [ih (List.cons_ne_nil _ _), commaList_cons s (List.cons_ne_nil _ _)]
      simp only [String.append_assoc]

/-- What stands behind a list stands behind its last selector. -/
theorem alternatives_commaList_append {front : List String} (h : ∀ s ∈ front, IsSelector s)
    (last y : String) :
    alternatives (commaList (front ++ [last]) ++ y) = front ++ alternatives (last ++ y) := by
  induction front with
  | nil => rfl
  | cons s front ih =>
    have hs : IsSelector s := h s List.mem_cons_self
    rw [List.cons_append, commaList_cons s (by simp), String.append_assoc, alternatives_append,
      hs.alternatives_eq, ih fun s hs => h s (List.mem_cons_of_mem _ hs)]
    rfl

/-- The selectors of a list are read back from its text. -/
theorem alternatives_commaList {selectors : List String} (h : IsSelectorList selectors) :
    alternatives (commaList selectors) = selectors := by
  obtain ⟨front, last, rfl⟩ : ∃ front last, selectors = front ++ [last] :=
    ⟨_, _, (List.dropLast_append_getLast h.nonempty).symm⟩
  have hfront : ∀ s ∈ front, IsSelector s := fun s hs => h.all s (by simp [hs])
  have hlast : IsSelector last := h.all last (by simp)
  have hall := alternatives_commaList_append hfront last ""
  rwa [String.append_empty, String.append_empty, hlast.alternatives_eq] at hall

namespace StyleNode

/-! ## Combinations of selectors -/

/-- A text with a parent in the place of every ampersand. -/
def substitute (parent key : String) : String :=
  String.ofList (key.toList.flatMap fun c => if c = '&' then parent.toList else [c])

/-- A key below a single parent. -/
def combine (parent key : String) : String :=
  if '&' ∈ key.toList then substitute parent key else parent ++ " " ++ key

/-- The combinations of every parent with every key. -/
def combinations (parents keys : List String) : List String :=
  keys.flatMap fun key => parents.map fun parent => combine parent key

@[simp] theorem substitute_append (parent x y : String) :
    substitute parent (x ++ y) = substitute parent x ++ substitute parent y := by
  simp [substitute]

@[simp] theorem substitute_ampersand (parent : String) : substitute parent "&" = parent := by
  simp [substitute]

@[simp] theorem substitute_empty (parent : String) : substitute parent "" = "" := by
  simp [substitute]

theorem substitute_of_not_mem {parent key : String} (h : '&' ∉ key.toList) :
    substitute parent key = key := by
  have hsame : (key.toList.flatMap fun c => if c = '&' then parent.toList else [c]) =
      key.toList.flatMap fun c => [c] := by
    apply List.flatMap_congr
    intro c hc
    have hne : c ≠ '&' := fun he => h (by rwa [he] at hc)
    exact if_neg hne
  rw [substitute, hsame, List.flatMap_singleton', String.ofList_toList]

/-- A text is not made shorter. -/
theorem length_le_substitute {parent : String} (h : 0 < parent.length) (key : String) :
    key.length ≤ (substitute parent key).length := by
  rw [substitute, String.length_ofList, ← String.length_toList]
  induction key.toList with
  | nil => exact Nat.le_refl 0
  | cons c cs ih =>
    have hc : 1 ≤ (if c = '&' then parent.toList else [c]).length := by
      split
      · rwa [String.length_toList]
      · exact Nat.le_refl 1
    rw [List.flatMap_cons, List.length_append, List.length_cons]
    omega

/-- An ampersand brings in the parent, and what stands around it is not made shorter. -/
theorem length_add_le_substitute {parent : String} (h : 0 < parent.length) (x y : String) :
    x.length + parent.length + y.length ≤ (substitute parent (x ++ "&" ++ y)).length := by
  have hx := length_le_substitute h x
  have hy := length_le_substitute h y
  rw [substitute_append, substitute_append, substitute_ampersand, String.length_append,
    String.length_append]
  omega

/-- A key goes below a text as below a single parent. -/
theorem nest_eq_combine {parent : String} (h : parent ≠ "") (key : String) :
    nest parent key = combine parent key := by
  have hempty : parent.isEmpty = false := by simpa using h
  unfold nest combine
  by_cases hamp : '&' ∈ key.toList
  · rw [if_pos (by simpa [hasChar] using hamp), if_pos hamp]
    unfold substitute
    rw [← String.toList_inj, String.toList_ofList]
    induction key.toList with
    | nil => rfl
    | cons c cs ih =>
      rw [List.map_cons, String.join_cons, String.toList_append, ih, List.flatMap_cons]
      by_cases hc : c = '&' <;> simp [hc]
  · rw [if_neg (by simpa [hasChar] using hamp), if_neg hamp, hempty]
    rfl

theorem comma_not_mem_substitute {parent key : String} (hparent : IsSelector parent)
    (hkey : IsSelector key) : ',' ∉ (substitute parent key).toList := by
  rw [substitute, String.toList_ofList, List.mem_flatMap]
  rintro ⟨c, hc, hcomma⟩
  split at hcomma
  · exact hparent.noComma hcomma
  · rw [List.mem_singleton] at hcomma
    exact hkey.noComma (hcomma ▸ hc)

/-- The text begins as the parent if the key begins with an ampersand, and as the key if not. -/
theorem head_substitute {parent key : String} (hparent : IsSelector parent)
    (hkey : IsSelector key) :
    ∀ c ∈ (substitute parent key).toList.head?, isBlank c = false := by
  have hhead := hkey.head
  rw [substitute, String.toList_ofList]
  cases hcs : key.toList with
  | nil => exact absurd hcs hkey.toList_ne_nil
  | cons c cs =>
    rw [hcs] at hhead
    rw [List.flatMap_cons]
    split
    · rw [List.head?_append_of_ne_nil _ hparent.toList_ne_nil]
      exact hparent.head
    · exact hhead

/-- It ends as the parent if the key ends with an ampersand, and as the key if not. -/
theorem last_substitute {parent key : String} (hparent : IsSelector parent)
    (hkey : IsSelector key) :
    ∀ c ∈ (substitute parent key).toList.getLast?, isBlank c = false := by
  have hlast := hkey.last
  rw [substitute, String.toList_ofList]
  rcases List.eq_nil_or_concat' key.toList with hcs | ⟨cs, c, hcs⟩
  · exact absurd hcs hkey.toList_ne_nil
  · rw [hcs, List.getLast?_concat] at hlast
    rw [hcs, List.flatMap_append, List.flatMap_singleton]
    split
    · rw [List.getLast?_append_of_ne_nil _ hparent.toList_ne_nil]
      exact hparent.last
    · rw [List.getLast?_concat]
      exact hlast

theorem isSelector_substitute {parent key : String} (hparent : IsSelector parent)
    (hkey : IsSelector key) : IsSelector (substitute parent key) := by
  refine IsSelector.of_ends ?_ (comma_not_mem_substitute hparent hkey)
    (head_substitute hparent hkey) (last_substitute hparent hkey)
  have hlen := length_le_substitute hparent.length_pos key
  have hpos := hkey.length_pos
  intro hempty
  rw [hempty, String.length_empty] at hlen
  omega

/-- A selector in the place of the ampersand at the end of a selector. -/
theorem isSelector_append {x parent : String} (h : IsSelector (x ++ "&")) (hx : '&' ∉ x.toList)
    (hparent : IsSelector parent) : IsSelector (x ++ parent) := by
  have hplaced := isSelector_substitute hparent h
  rwa [substitute_append, substitute_of_not_mem hx, substitute_ampersand] at hplaced

/-- A selector in the place of the ampersand at the beginning of a selector. -/
theorem isSelector_prepend {parent y : String} (h : IsSelector ("&" ++ y)) (hy : '&' ∉ y.toList)
    (hparent : IsSelector parent) : IsSelector (parent ++ y) := by
  have hplaced := isSelector_substitute hparent h
  rwa [substitute_append, substitute_of_not_mem hy, substitute_ampersand] at hplaced

/-- A selector below a selector is a selector. -/
theorem isSelector_combine {parent key : String} (hparent : IsSelector parent)
    (hkey : IsSelector key) : IsSelector (combine parent key) := by
  unfold combine
  split
  · exact isSelector_substitute hparent hkey
  · exact hparent.append hkey (by decide)

theorem isSelectorList_combinations {parents keys : List String} (hparents : IsSelectorList parents)
    (hkeys : IsSelectorList keys) : IsSelectorList (combinations parents keys) := by
  constructor
  · obtain ⟨key, rest, rfl⟩ := List.exists_cons_of_ne_nil hkeys.nonempty
    rw [combinations, List.flatMap_cons]
    apply List.append_ne_nil_of_left_ne_nil
    simpa using hparents.nonempty
  · intro s hs
    obtain ⟨key, hkey, hs⟩ := List.mem_flatMap.1 hs
    obtain ⟨parent, hparent, rfl⟩ := List.mem_map.1 hs
    exact isSelector_combine (hparents.all parent hparent) (hkeys.all key hkey)

theorem mem_combinations {parents keys : List String} {s : String} :
    s ∈ combinations parents keys ↔ ∃ key ∈ keys, ∃ parent ∈ parents, combine parent key = s := by
  simp [combinations]

theorem combine_of_mem {parent key : String} (h : '&' ∈ key.toList) :
    combine parent key = substitute parent key := if_pos h

theorem combine_of_not_mem {parent key : String} (h : '&' ∉ key.toList) :
    combine parent key = parent ++ " " ++ key := if_neg h

/-! ## Where the alternatives are the combinations -/

theorem commaList_ne_empty {selectors : List String} (h : IsSelectorList selectors) :
    commaList selectors ≠ "" := by
  intro hempty
  have hread := alternatives_commaList h
  rw [hempty] at hread
  have hmem : "" ∈ selectors := by
    rw [← hread]
    exact List.mem_singleton_self ""
  exact (h.all "" hmem).nonempty rfl

/-- An ampersand in a key stands in the text of the list too. -/
theorem mem_commaList {key : String} {keys : List String} {c : Char} (hkey : key ∈ keys)
    (hc : c ∈ key.toList) : c ∈ (commaList keys).toList := by
  induction keys with
  | nil => cases hkey
  | cons first rest ih =>
    by_cases hrest : rest = []
    · subst hrest
      rwa [← List.mem_singleton.1 hkey]
    · rw [commaList_cons first hrest, String.toList_append, String.toList_append]
      rcases List.mem_cons.1 hkey with rfl | hkey
      · simp [hc]
      · simp [ih hkey]

/-- Keys with ampersands are put below a text one by one. -/
theorem substitute_commaList {parents keys : List String} (hparents : parents ≠ [])
    (hkeys : keys ≠ [])
    (h : ∀ key ∈ keys, substitute (commaList parents) key =
      commaList (parents.map fun parent => combine parent key)) :
    substitute (commaList parents) (commaList keys) = commaList (combinations parents keys) := by
  induction keys with
  | nil => exact absurd rfl hkeys
  | cons key rest ih =>
    have hkey := h key List.mem_cons_self
    rw [combinations, List.flatMap_cons]
    -- The last key has no comma behind it.
    by_cases hrest : rest = []
    · subst hrest
      rw [List.flatMap_nil, List.append_nil]
      exact hkey
    · have hcombined : combinations parents rest ≠ [] := by
        obtain ⟨next, hnext⟩ := List.exists_mem_of_ne_nil rest hrest
        obtain ⟨parent, hparent⟩ := List.exists_mem_of_ne_nil parents hparents
        exact List.ne_nil_of_mem (mem_combinations.2 ⟨next, hnext, parent, hparent, rfl⟩)
      have hfirst : parents.map (fun parent => combine parent key) ≠ [] := by simpa using hparents
      have hsep : substitute (commaList parents) ", " = ", " := by
        apply substitute_of_not_mem
        decide
      rw [commaList_cons key hrest, substitute_append, substitute_append, hkey, hsep,
        ih hrest fun k hk => h k (List.mem_cons_of_mem _ hk)]
      exact (commaList_append hfirst hcombined).symm

/-- The alternatives of keys below parents are the combinations of both. -/
def Agrees (parents keys : List String) : Prop :=
  ∀ s, s ∈ alternatives (nest (commaList parents) (commaList keys)) ↔ s ∈ combinations parents keys

/-- The keys below the parents give the combinations: each key is the bare parent, or there is a
single parent, which stands for every ampersand or in front of a single key. -/
def Nests (parents keys : List String) : Prop :=
  (∀ key ∈ keys, key = "&") ∨
    parents.length = 1 ∧ (keys.length = 1 ∨ ∀ key ∈ keys, '&' ∈ key.toList)

instance (parents keys : List String) : Decidable (Nests parents keys) :=
  inferInstanceAs (Decidable (_ ∨ _))

/-- So it is with one list of keys after the other. -/
def NestsAlong (parents : List String) : List (List String) → Prop
  | [] => True
  | keys :: path => Nests parents keys ∧ NestsAlong (combinations parents keys) path

/-- Keys that nest give the text of the list of the combinations. -/
theorem nest_commaList {parents keys : List String} (hparents : IsSelectorList parents)
    (hkeys : IsSelectorList keys) (h : Nests parents keys) :
    nest (commaList parents) (commaList keys) = commaList (combinations parents keys) := by
  rw [nest_eq_combine (commaList_ne_empty hparents)]
  obtain ⟨first, rest, hfirst⟩ := List.exists_cons_of_ne_nil hkeys.nonempty
  have hmem : first ∈ keys := by simp [hfirst]
  rcases h with hbare | ⟨hsingle, hkeys' | hamp⟩
  · -- Every key is the bare parent, which gives the parents back.
    have hamp : '&' ∈ (commaList keys).toList := mem_commaList hmem (by simp [hbare first hmem])
    rw [combine_of_mem hamp]
    apply substitute_commaList hparents.nonempty hkeys.nonempty
    intro key hkey
    have hsame : (fun parent => combine parent key) = id := by
      funext parent
      rw [hbare key hkey, combine_of_mem (by decide), substitute_ampersand]
      rfl
    rw [hsame, List.map_id, hbare key hkey, substitute_ampersand]
  · -- Of one parent and one key there is one combination.
    obtain ⟨parent, rfl⟩ := List.length_eq_one_iff.1 hsingle
    obtain ⟨key, rfl⟩ := List.length_eq_one_iff.1 hkeys'
    rfl
  · -- Below a single parent there is one combination for every key with an ampersand.
    obtain ⟨parent, rfl⟩ := List.length_eq_one_iff.1 hsingle
    rw [combine_of_mem (mem_commaList hmem (hamp first hmem))]
    apply substitute_commaList hparents.nonempty hkeys.nonempty
    intro key hkey
    exact (combine_of_mem (hamp key hkey)).symm

/-- Along a path of keys that nest, the alternatives are the combinations at every depth. -/
theorem alternatives_nest_path {parents : List String} {path : List (List String)}
    (hparents : IsSelectorList parents) (hpath : ∀ keys ∈ path, IsSelectorList keys)
    (h : NestsAlong parents path) :
    alternatives ((path.map commaList).foldl nest (commaList parents)) =
      path.foldl combinations parents := by
  induction path generalizing parents with
  | nil => exact alternatives_commaList hparents
  | cons keys path ih =>
    have hkeys : IsSelectorList keys := hpath keys List.mem_cons_self
    rw [List.map_cons, List.foldl_cons, List.foldl_cons, nest_commaList hparents hkeys h.1]
    exact ih (isSelectorList_combinations hparents hkeys)
      (fun keys hk => hpath keys (List.mem_cons_of_mem _ hk)) h.2

/-! ## Where they are not -/

theorem agrees_singleton {parents : List String} {key : String} : Agrees parents [key] ↔
    ∀ s, s ∈ alternatives (nest (commaList parents) key) ↔
      ∃ parent ∈ parents, combine parent key = s := by
  simp only [Agrees, mem_combinations, List.mem_singleton, exists_eq_left]
  rfl

theorem exists_longest {texts : List String} (hne : texts ≠ []) :
    ∃ x ∈ texts, ∀ y ∈ texts, y.length ≤ x.length :=
  Set.exists_max_image {x | x ∈ texts} String.length (List.finite_toSet texts)
    (List.exists_mem_of_ne_nil texts hne)

theorem exists_shortest {texts : List String} (hne : texts ≠ []) :
    ∃ x ∈ texts, ∀ y ∈ texts, x.length ≤ y.length :=
  Set.exists_min_image {x | x ∈ texts} String.length (List.finite_toSet texts)
    (List.exists_mem_of_ne_nil texts hne)

/-- Texts that all have a shorter one among themselves and a text that is longer than none of
them cannot exist. -/
theorem eq_nil_of_shorter (longest : String) {others : List String}
    (hmax : ∀ x ∈ others, x.length ≤ longest.length)
    (h : ∀ x ∈ others, ∃ y ∈ longest :: others, y.length < x.length) : others = [] := by
  by_contra hne
  obtain ⟨x, hx, hmin⟩ := exists_shortest hne
  obtain ⟨y, hy, hlt⟩ := h x hx
  rcases List.mem_cons.1 hy with rfl | hy
  · have := hmax x hx
    omega
  · have := hmin y hy
    omega

/-- If texts are the extensions of themselves by something, except that one of them stands
extended in its own place, then it is the only one. -/
theorem eq_nil_of_extended {one : String} {others : List String} (extend : String → String)
    {d : Nat} (hd : 0 < d) (hlen : ∀ p, (extend p).length = p.length + d)
    (h : ∀ s, s ∈ extend one :: others ↔ ∃ p ∈ one :: others, extend p = s) : others = [] := by
  -- The extension of a longest text can only stand in the place of the one.
  obtain ⟨longest, hmem, hmax⟩ := exists_longest (List.cons_ne_nil one others)
  have hone : longest.length = one.length := by
    rcases List.mem_cons.1 ((h (extend longest)).2 ⟨longest, hmem, rfl⟩) with heq | hother
    · have hlongest := hlen longest
      have hone := hlen one
      rw [heq] at hlongest
      omega
    · have hle := hmax _ (List.mem_cons_of_mem _ hother)
      have hlongest := hlen longest
      omega
  apply eq_nil_of_shorter one
  · intro x hx
    have := hmax x (List.mem_cons_of_mem _ hx)
    omega
  · intro x hx
    obtain ⟨p, hp, rfl⟩ := (h x).1 (List.mem_cons_of_mem _ hx)
    refine ⟨p, hp, ?_⟩
    have := hlen p
    omega

/-- Keys without ampersands go behind the last parent, and only the first of them does. -/
theorem alternatives_nest_plain {front keys : List String} {last key : String}
    (hparents : IsSelectorList (front ++ [last])) (hkeys : IsSelectorList (key :: keys))
    (hplain : ∀ k ∈ key :: keys, '&' ∉ k.toList) :
    alternatives (nest (commaList (front ++ [last])) (commaList (key :: keys))) =
      front ++ (last ++ " " ++ key) :: keys := by
  have hlast : IsSelector last := hparents.all last (by simp)
  have hkey : IsSelector key := hkeys.all key List.mem_cons_self
  have hnot : '&' ∉ (commaList (key :: keys)).toList := by
    rw [commaList, toList_joinText]
    intro hmem
    rcases mem_joinWith hmem with hsep | ⟨piece, hpiece, hamp⟩
    · exact absurd hsep (by decide)
    · obtain ⟨k, hk, rfl⟩ := List.mem_map.1 hpiece
      exact hplain k hk hamp
  have hlist : IsSelectorList ((last ++ " " ++ key) :: keys) := by
    refine ⟨List.cons_ne_nil _ _, ?_⟩
    intro s hs
    rcases List.mem_cons.1 hs with rfl | hs
    · exact hlast.append hkey (by decide)
    · exact hkeys.all s (List.mem_cons_of_mem _ hs)
  rw [nest_eq_combine (commaList_ne_empty hparents), combine_of_not_mem hnot, String.append_assoc,
    alternatives_commaList_append (fun s hs => hparents.all s (by simp [hs])),
    ← String.append_assoc, append_commaList, alternatives_commaList hlist]

/-- Lists without ampersands agree only if there is one parent and one key. -/
theorem length_of_agrees_plain {parents keys : List String} (hparents : IsSelectorList parents)
    (hkeys : IsSelectorList keys) (hplain : ∀ key ∈ keys, '&' ∉ key.toList)
    (h : Agrees parents keys) : parents.length = 1 ∧ keys.length = 1 := by
  obtain ⟨front, last, rfl⟩ : ∃ front last, parents = front ++ [last] :=
    ⟨_, _, (List.dropLast_append_getLast hparents.nonempty).symm⟩
  obtain ⟨key, rest, rfl⟩ := List.exists_cons_of_ne_nil hkeys.nonempty
  have hcombine : ∀ p, ∀ k ∈ key :: rest, (combine p k).length = p.length + 1 + k.length := by
    intro p k hk
    rw [combine_of_not_mem (hplain k hk), String.length_append, String.length_append]
    rfl
  have hagrees : ∀ s, (s ∈ front ∨ s = combine last key ∨ s ∈ rest) ↔
      ∃ k ∈ key :: rest, ∃ p ∈ front ++ [last], combine p k = s := by
    intro s
    have hs := h s
    rw [alternatives_nest_plain hparents hkeys hplain, mem_combinations, List.mem_append,
      List.mem_cons, ← combine_of_not_mem (hplain key List.mem_cons_self)] at hs
    exact hs
  -- The longest combination is longer than every parent and every key, so it is the one of the
  -- last parent with the first key.
  obtain ⟨p, hp, hpmax⟩ := exists_longest hparents.nonempty
  obtain ⟨k, hk, hkmax⟩ := exists_longest hkeys.nonempty
  have hlongest : p.length ≤ last.length ∧ k.length ≤ key.length := by
    have hlen := hcombine p k hk
    rcases (hagrees (combine p k)).2 ⟨k, hk, p, hp, rfl⟩ with hfront | heq | hrest
    · have := hpmax _ (List.mem_append_left _ hfront)
      omega
    · have hlast := hpmax last (by simp)
      have hkey := hkmax key List.mem_cons_self
      have hlen' := hcombine last key List.mem_cons_self
      rw [heq] at hlen
      omega
    · have := hkmax _ (List.mem_cons_of_mem _ hrest)
      omega
  have hfront : front = [] := by
    apply eq_nil_of_shorter last
    · intro x hx
      exact (hpmax x (List.mem_append_left _ hx)).trans hlongest.1
    · intro x hx
      obtain ⟨k', hk', p', hp', rfl⟩ := (hagrees x).1 (.inl hx)
      have hlen := hcombine p' k' hk'
      exact ⟨p', by simpa [or_comm] using hp', by omega⟩
  have hrest : rest = [] := by
    apply eq_nil_of_shorter key
    · intro x hx
      exact (hkmax x (List.mem_cons_of_mem _ hx)).trans hlongest.2
    · intro x hx
      obtain ⟨k', hk', p', -, rfl⟩ := (hagrees x).1 (.inr (.inr hx))
      have hlen := hcombine p' k' hk'
      exact ⟨k', hk', by omega⟩
  rw [hfront, hrest]
  exact ⟨rfl, rfl⟩

theorem exists_first_ampersand {key : String} (h : '&' ∈ key.toList) :
    ∃ x y, key = x ++ "&" ++ y ∧ '&' ∉ x.toList := by
  obtain ⟨front, back, hkey, hnot⟩ := List.eq_append_cons_of_mem h
  refine ⟨String.ofList front, String.ofList back, ?_, by rwa [String.toList_ofList]⟩
  rw [← String.toList_inj, hkey]
  simp

theorem exists_last_ampersand {key : String} (h : '&' ∈ key.toList) :
    ∃ x y, key = x ++ "&" ++ y ∧ '&' ∉ y.toList := by
  obtain ⟨back, front, hkey, hnot⟩ := List.eq_append_cons_of_mem (List.mem_reverse.2 h)
  refine ⟨String.ofList front.reverse, String.ofList back.reverse, ?_, by simpa using hnot⟩
  rw [← String.toList_inj, ← List.reverse_reverse key.toList, hkey]
  simp

section SeveralParents

variable {first last x y key : String} {mid : List String}

/-- The alternatives of a key with an ampersand below several parents: what stands before the
ampersand goes to the first of them, and what stands behind it to the last. -/
theorem alternatives_nest_ampersand (hparents : IsSelectorList (first :: (mid ++ [last]))) :
    alternatives (nest (commaList (first :: (mid ++ [last]))) (x ++ "&" ++ y)) =
      alternatives (substitute (commaList (first :: (mid ++ [last]))) x ++ first) ++ (mid ++
        alternatives (last ++ substitute (commaList (first :: (mid ++ [last]))) y)) := by
  have hmid : ∀ s ∈ mid, IsSelector s := fun s hs => hparents.all s (by simp [hs])
  have hmem : '&' ∈ (x ++ "&" ++ y).toList := by simp
  rw [nest_eq_combine (commaList_ne_empty hparents), combine_of_mem hmem, substitute_append,
    substitute_append, substitute_ampersand]
  generalize substitute (commaList (first :: (mid ++ [last]))) x = front
  generalize substitute (commaList (first :: (mid ++ [last]))) y = back
  rw [commaList_cons first (by simp), ← alternatives_commaList_append hmid,
    ← alternatives_append]
  simp only [String.append_assoc]

theorem first_mem_alternatives (hparents : IsSelectorList (first :: (mid ++ [last])))
    (hkey : IsSelector (x ++ "&" ++ y)) (hx : '&' ∉ x.toList) :
    x ++ first ∈ alternatives (nest (commaList (first :: (mid ++ [last]))) (x ++ "&" ++ y)) := by
  have hfirst := isSelector_append hkey.cut.1 hx (hparents.all first List.mem_cons_self)
  rw [alternatives_nest_ampersand hparents, substitute_of_not_mem hx, hfirst.alternatives_eq]
  exact List.mem_cons_self

theorem last_mem_alternatives (hparents : IsSelectorList (first :: (mid ++ [last])))
    (hkey : IsSelector (x ++ "&" ++ y)) (hy : '&' ∉ y.toList) :
    last ++ y ∈ alternatives (nest (commaList (first :: (mid ++ [last]))) (x ++ "&" ++ y)) := by
  have hlast := isSelector_prepend hkey.cut.2 hy (hparents.all last (by simp))
  rw [alternatives_nest_ampersand hparents, substitute_of_not_mem hy, hlast.alternatives_eq]
  simp

/-- The parents in the middle get nothing. -/
theorem mem_alternatives_of_mem_mid (hparents : IsSelectorList (first :: (mid ++ [last])))
    {p : String} (hp : p ∈ mid) :
    p ∈ alternatives (nest (commaList (first :: (mid ++ [last]))) (x ++ "&" ++ y)) := by
  rw [alternatives_nest_ampersand hparents]
  simp [hp]

/-- A key that ends in its only ampersand extends the first parent alone. -/
theorem not_agrees_front (hparents : IsSelectorList (first :: (mid ++ [last]))) (hkey : IsSelector (x ++ "&"))
    (hx : 0 < x.length) (hnot : '&' ∉ x.toList) :
    ¬Agrees (first :: (mid ++ [last])) [x ++ "&"] := by
  intro h
  have hsubst : ∀ p, combine p (x ++ "&") = x ++ p := by
    intro p
    rw [combine_of_mem (by simp), substitute_append, substitute_of_not_mem hnot,
      substitute_ampersand]
  have hfirst := isSelector_append hkey hnot (hparents.all first List.mem_cons_self)
  have hlast : IsSelector last := hparents.all last (by simp)
  have halternatives := alternatives_nest_ampersand (x := x) (y := "") hparents
  rw [substitute_of_not_mem hnot, substitute_empty, String.append_empty, String.append_empty,
    hfirst.alternatives_eq, hlast.alternatives_eq] at halternatives
  have hextended : ∀ s, s ∈ (x ++ first) :: (mid ++ [last]) ↔
      ∃ p ∈ first :: (mid ++ [last]), x ++ p = s := by
    intro s
    have hs := agrees_singleton.1 h s
    rw [halternatives] at hs
    simpa [hsubst] using hs
  have hnone := eq_nil_of_extended (fun p => x ++ p) hx
    (fun p => by rw [String.length_append, Nat.add_comm]) hextended
  simp at hnone

/-- A key that begins with its only ampersand extends the last parent alone. -/
theorem not_agrees_back (hparents : IsSelectorList (first :: (mid ++ [last]))) (hkey : IsSelector ("&" ++ y))
    (hy : 0 < y.length) (hnot : '&' ∉ y.toList) :
    ¬Agrees (first :: (mid ++ [last])) ["&" ++ y] := by
  intro h
  have hsubst : ∀ p, combine p ("&" ++ y) = p ++ y := by
    intro p
    rw [combine_of_mem (by simp), substitute_append, substitute_of_not_mem hnot,
      substitute_ampersand]
  have hlast := isSelector_prepend hkey hnot (hparents.all last (by simp))
  have hfirst : IsSelector first := hparents.all first List.mem_cons_self
  have halternatives := alternatives_nest_ampersand (x := "") (y := y) hparents
  rw [substitute_of_not_mem hnot, substitute_empty, String.empty_append, String.empty_append,
    hfirst.alternatives_eq, hlast.alternatives_eq] at halternatives
  -- The lemma on extended texts has the one in front.
  have hmove : ∀ z s, s ∈ z :: first :: mid ↔ s ∈ first :: (mid ++ [z]) := by
    intro z s
    exact (List.perm_append_singleton z (first :: mid)).mem_iff.symm
  have hextended : ∀ s, s ∈ (last ++ y) :: first :: mid ↔
      ∃ p ∈ last :: first :: mid, p ++ y = s := by
    intro s
    have hs := agrees_singleton.1 h s
    rw [halternatives] at hs
    simp only [hmove]
    simpa [hsubst] using hs
  have hnone := eq_nil_of_extended (fun p => p ++ y) hy
    (fun p => String.length_append p y) hextended
  cases hnone

/-- A single key with ampersands agrees with several parents only if it is the bare parent. -/
theorem eq_ampersand_of_agrees (hparents : IsSelectorList (first :: (mid ++ [last])))
    (hkey : IsSelector key) (hamp : '&' ∈ key.toList)
    (h : Agrees (first :: (mid ++ [last])) [key]) : key = "&" := by
  by_contra hbare
  obtain ⟨x, y, hxy, hx⟩ := exists_first_ampersand hamp
  obtain ⟨u, v, huv, hv⟩ := exists_last_ampersand hamp
  have hlong : 0 < x.length + y.length := by
    by_contra hzero
    have hxnil : x = "" := String.length_eq_zero_iff.1 (by omega)
    have hynil : y = "" := String.length_eq_zero_iff.1 (by omega)
    apply hbare
    rw [hxy, hxnil, hynil]
    rfl
  have hpos : ∀ p ∈ first :: (mid ++ [last]), 0 < p.length :=
    fun p hp => (hparents.all p hp).length_pos
  have hagrees : ∀ s ∈ alternatives (nest (commaList (first :: (mid ++ [last]))) key),
      ∃ p ∈ first :: (mid ++ [last]), substitute p key = s := by
    intro s hs
    obtain ⟨p, hp, heq⟩ := (agrees_singleton.1 h s).1 hs
    exact ⟨p, hp, by rwa [← combine_of_mem hamp]⟩
  -- A shortest parent stands at one of the ends, for it is shorter than every combination.
  obtain ⟨shortest, hmem, hmin⟩ := exists_shortest hparents.nonempty
  rw [List.mem_cons, List.mem_append, List.mem_singleton] at hmem
  rcases hmem with rfl | hmid | rfl
  · -- The first alternative has nothing behind its parent, so neither has the key.
    have hfirst := first_mem_alternatives hparents (hxy ▸ hkey) hx
    rw [← hxy] at hfirst
    obtain ⟨p, hp, heq⟩ := hagrees _ hfirst
    have hlen := length_add_le_substitute (hpos p hp) x y
    rw [← hxy, heq, String.length_append] at hlen
    have hshort := hmin p hp
    have hy : y = "" := String.length_eq_zero_iff.1 (by omega)
    rw [hy, String.append_empty] at hxy
    subst hxy hy
    exact not_agrees_front hparents hkey hlong hx h
  · have hmiddle := mem_alternatives_of_mem_mid (x := x) (y := y) hparents hmid
    rw [← hxy] at hmiddle
    obtain ⟨p, hp, heq⟩ := hagrees _ hmiddle
    have hlen := length_add_le_substitute (hpos p hp) x y
    rw [← hxy, heq] at hlen
    have hshort := hmin p hp
    omega
  · -- The last alternative has nothing in front of its parent, so neither has the key.
    have hlast := last_mem_alternatives hparents (huv ▸ hkey) hv
    rw [← huv] at hlast
    obtain ⟨p, hp, heq⟩ := hagrees _ hlast
    have hlen := length_add_le_substitute (hpos p hp) u v
    rw [← huv, heq, String.length_append] at hlen
    have hshort := hmin p hp
    have hu : u = "" := String.length_eq_zero_iff.1 (by omega)
    rw [hu, String.empty_append] at huv
    have hv' : 0 < v.length := by
      have hlenkey := congrArg String.length (hxy.symm.trans huv)
      simp only [String.length_append] at hlenkey
      omega
    subst huv
    exact not_agrees_back hparents hkey hv' hv h

end SeveralParents

/-- Nesting below lists of selectors. Along a path of lists of keys that nest, the alternatives of
the text are the combinations of the parents with the keys, at every depth. A single key, and keys
without ampersands, agree with their parents only if they nest. -/
theorem nest_alternatives {parents : List String} (hparents : IsSelectorList parents) :
    (∀ path : List (List String), (∀ keys ∈ path, IsSelectorList keys) → NestsAlong parents path →
      ∀ s, s ∈ alternatives ((path.map commaList).foldl nest (commaList parents)) ↔
        s ∈ path.foldl combinations parents) ∧
    ∀ keys : List String, IsSelectorList keys →
      (keys.length = 1 ∨ ∀ key ∈ keys, '&' ∉ key.toList) →
      (Agrees parents keys ↔ Nests parents keys) := by
  constructor
  · intro path hpath h s
    rw [alternatives_nest_path hparents hpath h]
  · intro keys hkeys hkind
    constructor
    · intro h
      by_cases hplain : ∀ key ∈ keys, '&' ∉ key.toList
      · obtain ⟨hparent, hkey⟩ := length_of_agrees_plain hparents hkeys hplain h
        exact .inr ⟨hparent, .inl hkey⟩
      · obtain ⟨key, rfl⟩ := List.length_eq_one_iff.1 (hkind.resolve_right hplain)
        have hamp : '&' ∈ key.toList := by simpa using hplain
        obtain ⟨first, rest, rfl⟩ := List.exists_cons_of_ne_nil hparents.nonempty
        rcases List.eq_nil_or_concat' rest with rfl | ⟨mid, last, rfl⟩
        · exact .inr ⟨rfl, .inl rfl⟩
        refine .inl ?_
        intro key' hkey'
        rw [List.mem_singleton.1 hkey']
        exact eq_ampersand_of_agrees hparents (hkeys.all key (by simp)) hamp h
    · intro h s
      rw [nest_commaList hparents hkeys h, alternatives_commaList
        (isSelectorList_combinations hparents hkeys)]

theorem nest_alternatives_links : (IsSelectorList ["a"] ∧
    NestsAlong ["a"] [["&:hover", "&:focus"], ["&"]]) ∧
    (∀ s, s ∈ alternatives (nest (nest "a" "&:hover, &:focus") "&") ↔
      s ∈ ["a:hover", "a:focus"]) ∧
    ∀ s, s ∈ alternatives (nest "a" "b") ↔ s ∈ ["a b"] := by
  have hparents : IsSelectorList ["a"] := by decide +kernel
  have hpath : NestsAlong ["a"] [["&:hover", "&:focus"], ["&"]] :=
    ⟨by decide +kernel, by decide +kernel, trivial⟩
  refine ⟨⟨hparents, hpath⟩, ?_, ?_⟩
  · intro s
    have hs := (nest_alternatives hparents).1 [["&:hover", "&:focus"], ["&"]]
      (by decide +kernel) hpath s
    have hcombined : [["&:hover", "&:focus"], ["&"]].foldl combinations ["a"] =
        ["a:hover", "a:focus"] := by decide +kernel
    rw [hcombined] at hs
    exact hs
  · have hall := ((nest_alternatives hparents).2 ["b"] (by decide +kernel) (.inl rfl)).2
      (by decide +kernel)
    have hcombined : combinations ["a"] ["b"] = ["a b"] := by decide +kernel
    simp only [Agrees, hcombined] at hall
    exact hall

/-- Below two headings, a link is only nested in the second one. -/
theorem nest_loses_parent : IsSelectorList ["h1", "h2"] ∧ IsSelectorList ["a"] ∧
    nest (commaList ["h1", "h2"]) (commaList ["a"]) = "h1, h2 a" ∧
    alternatives "h1, h2 a" = ["h1", "h2 a"] ∧
    combinations ["h1", "h2"] ["a"] = ["h1 a", "h2 a"] ∧
    ¬Agrees ["h1", "h2"] ["a"] := by
  have hnest : nest (commaList ["h1", "h2"]) (commaList ["a"]) = "h1, h2 a" := by decide +kernel
  have halternatives : alternatives "h1, h2 a" = ["h1", "h2 a"] := by decide +kernel
  have hcombined : combinations ["h1", "h2"] ["a"] = ["h1 a", "h2 a"] := by decide +kernel
  refine ⟨by decide +kernel, by decide +kernel, hnest, halternatives, hcombined, ?_⟩
  intro h
  have hfirst := (h "h1").1 (by simp [hnest, halternatives])
  rw [hcombined] at hfirst
  exact absurd hfirst (by decide)

end StyleNode

end DocSite
