import DocSite.Path
import DocSite.Proofs.Text
import Mathlib.Data.Set.List

/-!
# Where paths lead

  A path is resolved by its text alone: a name enters a directory, two dots go
  back to the one above, and what stands on the disk is not asked. Joining is
  transparent to this: the joined path goes where the first one leads, and on from
  there along the second. All paths in one directory start alike, as texts and as
  pieces.
-/

namespace DocSite

open DocSite.Text

/-! ## Resolving -/

/-- The place that a component leads to. -/
def Component.goFrom (place : List String) : Component → List String
  | .root => []
  | .here => place
  | .up => place.dropLast
  | .name text => place ++ [text]

namespace Path

/-- The place that a path leads to from the root, by its text alone. -/
def resolved (p : Path) : List String := p.components.foldl Component.goFrom []

/-- Whether a path leads to a place at or below that of another. -/
def LiesUnder (p dir : Path) : Prop := dir.resolved <+: p.resolved

instance (p dir : Path) : Decidable (p.LiesUnder dir) :=
  inferInstanceAs (Decidable (dir.resolved <+: p.resolved))

/-- Names lead down, one after the other. -/
theorem foldl_goFrom_names (place names : List String) :
    (names.map Component.name).foldl Component.goFrom place = place ++ names := by
  induction names generalizing place with
  | nil => simp
  | cons name rest ih =>
    rw [List.map_cons, List.foldl_cons, ih, Component.goFrom, List.append_assoc,
      List.singleton_append]

/-! ## Components of written paths -/

theorem componentsOf_append (front back : List (List Char)) :
    componentsOf (front ++ back) = componentsOf front ++ componentsOf back :=
  List.filterMap_append

/-- A piece stands for a name or for the directory above. -/
theorem eq_up_or_name_of_mem {pieces : List (List Char)} {c : Component}
    (h : c ∈ componentsOf pieces) : c = .up ∨ ∃ text, c = .name text := by
  obtain ⟨piece, -, hpiece⟩ := List.mem_filterMap.1 h
  rw [Component.ofPiece?] at hpiece
  split at hpiece
  · exact absurd hpiece (by simp)
  · split at hpiece
    · exact .inl (Option.some.inj hpiece).symm
    · exact .inr ⟨_, (Option.some.inj hpiece).symm⟩

/-- Without two dots, the pieces stand for names only. -/
theorem exists_names {pieces : List (List Char)} (h : .up ∉ componentsOf pieces) :
    ∃ names : List String, componentsOf pieces = names.map Component.name := by
  have hmem : componentsOf pieces ∈ Set.range (List.map Component.name) := by
    rw [Set.range_list_map]
    intro c hc
    rcases eq_up_or_name_of_mem hc with rfl | ⟨text, rfl⟩
    · exact absurd hc h
    · exact ⟨text, rfl⟩
  obtain ⟨names, hnames⟩ := hmem
  exact ⟨names, hnames.symm⟩

theorem components_of_absolute {p : Path} (h : p.isAbsolute = true) :
    p.components = .root :: componentsOf p.pieces := by
  rw [components, if_pos h]

/-- A relative path says nothing but its pieces, and perhaps a dot in front. -/
theorem components_of_relative {p : Path} (h : p.isAbsolute = false) :
    p.components = componentsOf p.pieces ∨ p.components = .here :: componentsOf p.pieces := by
  rw [components, if_neg (by simp [h])]
  split
  · rename_i rest hpieces
    right
    rw [hpieces]
    rfl
  · exact .inl rfl

/-- What a relative path says about going up is said by its pieces. -/
theorem up_mem_componentsOf_iff {p : Path} (h : p.isAbsolute = false) :
    .up ∈ componentsOf p.pieces ↔ .up ∈ p.components := by
  rcases components_of_relative h with hp | hp <;> simp [hp]

/-- No piece stands for the root. -/
theorem root_not_mem_componentsOf (pieces : List (List Char)) : .root ∉ componentsOf pieces := by
  intro hroot
  rcases eq_up_or_name_of_mem hroot with hup | ⟨text, hname⟩
  · simp at hup
  · simp at hname

/-- A relative path does not go to the root. -/
theorem root_not_mem_components {p : Path} (h : p.isAbsolute = false) :
    .root ∉ p.components := by
  rcases components_of_relative h with hp | hp <;> simp [hp, root_not_mem_componentsOf]

/-! ## Joining -/

theorem exists_of_isAbsolute {p : Path} (h : p.isAbsolute = true) :
    ∃ cs, p.text.toList = '/' :: cs ∧ p.pieces = splitOn '/' cs := by
  have hhead : p.text.toList.head? = some '/' := by simpa [isAbsolute] using h
  obtain ⟨cs, hcs⟩ := List.head?_eq_some_iff.1 hhead
  exact ⟨cs, hcs, by rw [pieces, if_pos h, hcs, List.drop_one, List.tail_cons]⟩

theorem isAbsolute_of_toList {p : Path} {cs : List Char} (h : p.text.toList = '/' :: cs) :
    p.isAbsolute = true := by
  simp [isAbsolute, h]

/-- A relative path below an absolute one adds its own components. -/
theorem components_join {p q : Path} (hp : p.isAbsolute = true) (hq : q.isAbsolute = false) :
    (p.join q).components = p.components ++ componentsOf q.pieces := by
  obtain ⟨cs, htext, hpieces⟩ := exists_of_isAbsolute hp
  have hqpieces : q.pieces = splitOn '/' q.text.toList := by simp [pieces, hq]
  -- Whatever stands between the two texts, the components behind the root are those of both.
  suffices hjoin : ∃ joined, (p.join q).text.toList = '/' :: joined ∧
      componentsOf (splitOn '/' joined) = componentsOf p.pieces ++ componentsOf q.pieces by
    obtain ⟨joined, hjoined, hcomponents⟩ := hjoin
    have habs := isAbsolute_of_toList hjoined
    have hsplit : (p.join q).pieces = splitOn '/' joined := by
      simp [pieces, habs, hjoined]
    rw [components_of_absolute habs, components_of_absolute hp, hsplit, hcomponents,
      List.cons_append]
  rw [hpieces, hqpieces, join, if_neg (by simp [hq])]
  split
  · rename_i hend
    refine ⟨cs ++ q.text.toList, by simp [htext], ?_⟩
    rcases List.eq_nil_or_concat' cs with rfl | ⟨front, last, rfl⟩
    · rfl
    · -- The text ends in a slash, which makes an empty piece.
      have hlast : last = '/' := by
        have hne : p.text.isEmpty = false := by simp [← String.toList_eq_nil_iff, htext]
        simpa [hne, htext, List.getLast?_cons] using hend
      rw [hlast, List.append_assoc, List.singleton_append, splitOn_append_cons,
        splitOn_append_cons, componentsOf_append, componentsOf_append]
      simp [splitOn, componentsOf, Component.ofPiece?]
  · -- In between stands a slash that the first text does not end in.
    refine ⟨cs ++ '/' :: q.text.toList, by simp [htext], ?_⟩
    rw [splitOn_append_cons, componentsOf_append]

/-- A joined path leads on from where its first part leads. -/
theorem resolved_join {p q : Path} (hp : p.isAbsolute = true) (hq : q.isAbsolute = false) :
    (p.join q).resolved = q.components.foldl Component.goFrom p.resolved := by
  rw [resolved, components_join hp hq, List.foldl_append, ← resolved]
  rcases components_of_relative hq with h | h
  · rw [h]
  · rw [h, List.foldl_cons, Component.goFrom]

/-- Names below a path are entered one after the other. -/
theorem resolved_join_names {p q : Path} (hp : p.isAbsolute = true) (hq : q.isAbsolute = false)
    {names : List String} (h : componentsOf q.pieces = names.map Component.name) :
    (p.join q).resolved = p.resolved ++ names := by
  rw [resolved, components_join hp hq, h, List.foldl_append, foldl_goFrom_names, resolved]

/-! ## Paths in one directory -/

/-- A relative path does not start at the root because of what it is joined to. -/
theorem isAbsolute_join {q : Path} (hq : q.isAbsolute = false) (p : Path) :
    (p.join q).isAbsolute = p.isAbsolute := by
  rw [join, if_neg (by simp [hq])]
  cases htext : p.text.toList with
  | nil =>
    obtain ⟨text⟩ := p
    obtain rfl : text = "" := String.toList_eq_nil_iff.1 htext
    simpa [isAbsolute] using hq
  | cons c cs =>
    split
    · simp [isAbsolute, htext]
    · simp [isAbsolute, htext]

/-- All paths in one directory start with the same text. -/
theorem exists_text_join (p : Path) : ∃ base : String, ∀ q : Path, q.isAbsolute = false →
    (p.join q).text = base ++ q.text := by
  by_cases hend : (p.text.isEmpty || p.text.toList.getLast? == some '/') = true
  · refine ⟨p.text, fun q hq => ?_⟩
    rw [join, if_neg (by simp [hq]), if_pos hend]
  · refine ⟨p.text ++ "/", fun q hq => ?_⟩
    rw [join, if_neg (by simp [hq]), if_neg hend]

/-- What follows a slash is split on its own, also if it is the slash of the root. -/
theorem exists_pieces_of_slash (front : List Char) : ∃ before, ∀ (p : Path) (back : List Char),
    p.text.toList = front ++ '/' :: back → p.pieces = before ++ splitOn '/' back := by
  cases front with
  | nil =>
    refine ⟨[], fun p back htext => ?_⟩
    rw [pieces, if_pos (isAbsolute_of_toList htext), htext]
    rfl
  | cons c cs =>
    by_cases hroot : c = '/'
    · refine ⟨splitOn '/' cs, fun p back htext => ?_⟩
      have habs : p.isAbsolute = true := by simp [isAbsolute, htext, hroot]
      rw [pieces, if_pos habs, htext, ← splitOn_append_cons]
      rfl
    · refine ⟨splitOn '/' (c :: cs), fun p back htext => ?_⟩
      have hrel : p.isAbsolute ≠ true := by simp [isAbsolute, htext, hroot]
      rw [pieces, if_neg hrel, htext, splitOn_append_cons]

/-- All paths in one directory start with the same pieces. -/
theorem exists_pieces_join (p : Path) : ∃ before, ∀ q : Path, q.isAbsolute = false →
    (p.join q).pieces = before ++ q.pieces := by
  have hpieces {q : Path} (hq : q.isAbsolute = false) : q.pieces = splitOn '/' q.text.toList := by
    simp [pieces, hq]
  rcases List.eq_nil_or_concat' p.text.toList with hp | ⟨front, last, hp⟩
  · -- A path without a text adds nothing.
    refine ⟨[], fun q hq => ?_⟩
    have hjoin : p.join q = q := by simp [join, hq, String.toList_eq_nil_iff.1 hp]
    rw [hjoin, List.nil_append]
  · have hne : p.text.isEmpty = false := by simp [← String.toList_eq_nil_iff, hp]
    -- A slash is put between the texts unless there is one, so some text with a slash is in front.
    by_cases hlast : last = '/'
    · obtain ⟨before, hbefore⟩ := exists_pieces_of_slash front
      refine ⟨before, fun q hq => ?_⟩
      rw [hpieces hq]
      exact hbefore _ _ (by simp [join, hq, hp, hlast])
    · obtain ⟨before, hbefore⟩ := exists_pieces_of_slash p.text.toList
      refine ⟨before, fun q hq => ?_⟩
      rw [hpieces hq]
      exact hbefore _ _ (by simp [join, hq, hp, hne, hlast])

/-- A name without a slash is a relative path of one piece. -/
theorem isAbsolute_name {name : String} (h : '/' ∉ name.toList) :
    (⟨name⟩ : Path).isAbsolute = false := by
  rw [Bool.eq_false_iff]
  intro habs
  obtain ⟨cs, hcs, -⟩ := exists_of_isAbsolute habs
  rw [hcs] at h
  exact h List.mem_cons_self

theorem pieces_name {name : String} (h : '/' ∉ name.toList) :
    (⟨name⟩ : Path).pieces = [name.toList] := by
  rw [pieces, if_neg (by simp [isAbsolute_name h]), splitOn_of_not_mem h]

end Path

end DocSite
