import DocSite.Theme.Content
import Mathlib.Data.List.Forall2

/-!
# Matchers

  A list of globs makes a matcher when each of them can be read and none needs an
  expression that is nested too deeply. What the matcher takes is said by the globs
  one by one: some glob includes the path and none excludes it.
-/

namespace DocSite

/-! ## Lists that are read item by item -/

section

variable {ε α β : Type} {f : α → Except ε β} {items : List α}

/-- A list gives one value an item. -/
theorem mapM_eq_ok_iff {values : List β} :
    items.mapM f = .ok values ↔ List.Forall₂ (fun x y => f x = .ok y) items values := by
  induction items generalizing values with
  | nil =>
    rw [List.mapM_nil, List.forall₂_nil_left_iff]
    exact ⟨fun h => (Except.ok.inj h).symm, fun h => congrArg Except.ok h.symm⟩
  | cons x rest ih =>
    rw [List.mapM_cons, List.forall₂_cons_left_iff]
    cases hx : f x with
    | error e => simp [bind, Except.bind]
    | ok y =>
      cases hrest : rest.mapM f with
      | error e =>
        -- The rest has no values, so the list has none either.
        have hnone (ys : List β) : ¬List.Forall₂ (fun x y => f x = .ok y) rest ys := by
          rw [← ih, hrest]
          simp
        simp [bind, Except.bind, hnone]
      | ok ys =>
        simp only [← ih, hrest]
        simp [bind, Except.bind, pure, Except.pure, eq_comm]

/-- A list can be read exactly if each of its items can. -/
theorem exists_mapM_eq_ok_iff :
    (∃ values, items.mapM f = .ok values) ↔ ∀ x ∈ items, ∃ y, f x = .ok y := by
  simp only [mapM_eq_ok_iff]
  constructor
  · rintro ⟨values, h⟩
    induction h with
    | nil => simp
    | cons hxy _ ih => exact List.forall_mem_cons.2 ⟨⟨_, hxy⟩, ih⟩
  · intro h
    induction items with
    | nil => exact ⟨[], .nil⟩
    | cons x rest ih =>
      obtain ⟨⟨y, hy⟩, hrest⟩ := List.forall_mem_cons.1 h
      obtain ⟨ys, hys⟩ := ih hrest
      exact ⟨y :: ys, .cons hy hys⟩

end

/-! ## Globs of a matcher -/

namespace Glob.PatternSet

/-- A set holds the patterns it was made of; it is made unless one of them needs an expression
that is too deep. -/
theorem ofPatterns_eq_ok_iff {patterns : List (List Token)} {set : PatternSet} :
    ofPatterns patterns = .ok set ↔
      (∀ tokens ∈ patterns, kindOf tokens ≠ .plain → isTooDeep tokens = false) ∧
        set = { patterns } := by
  -- The patterns of the two kinds that become expressions are looked through one after the other.
  have hall : ((ofKind .extension patterns).find? isTooDeep = none ∧
      (ofKind .general patterns).findIdx? isTooDeep = none) ↔
      ∀ tokens ∈ patterns, kindOf tokens ≠ .plain → isTooDeep tokens = false := by
    simp only [List.find?_eq_none, List.findIdx?_eq_none_iff, ofKind, List.mem_filter, beq_iff_eq,
      Bool.not_eq_true, and_imp]
    constructor
    · rintro ⟨hextension, hgeneral⟩ tokens htokens hkind
      cases hk : kindOf tokens with
      | plain => exact absurd hk hkind
      | extension => exact hextension tokens htokens hk
      | general => exact hgeneral tokens htokens hk
    · intro h
      exact ⟨fun tokens htokens hk => h tokens htokens (by simp [hk]),
        fun tokens htokens hk => h tokens htokens (by simp [hk])⟩
  rw [← hall, ofPatterns]
  cases (ofKind .extension patterns).find? isTooDeep with
  | some tokens => simp
  | none =>
    cases (ofKind .general patterns).findIdx? isTooDeep with
    | some index => simp
    | none => simp [eq_comm]

end Glob.PatternSet

namespace ContentGlob

/-- Whether a glob matches a path, whatever it is used for. -/
def Matches (g : ContentGlob) (path : Path) : Prop :=
  ∃ tokens, g.compile = .ok tokens ∧ Glob.isMatch tokens path.text = true

/-- Whether a glob can be read and needs no expression that is nested too deeply. -/
def Fits (g : ContentGlob) : Prop :=
  ∃ tokens, g.compile = .ok tokens ∧ (Glob.kindOf tokens ≠ .plain → Glob.isTooDeep tokens = false)

instance (g : ContentGlob) (path : Path) : Decidable (g.Matches path) :=
  decidable_of_iff (∃ tokens ∈ g.compile.toOption, Glob.isMatch tokens path.text = true) <| by
    cases hread : g.compile <;> simp [Matches, hread, Except.toOption]

instance (g : ContentGlob) : Decidable g.Fits :=
  decidable_of_iff (∃ tokens ∈ g.compile.toOption,
      Glob.kindOf tokens ≠ .plain → Glob.isTooDeep tokens = false) <| by
    cases hread : g.compile <;> simp [Fits, hread, Except.toOption]

end ContentGlob

namespace ContentMatcher

variable {globs : List ContentGlob}

/-- The patterns of the globs that exclude, or of those that include. -/
def patternsOf (exclusion : Bool) (globs : List ContentGlob) : List (List Glob.Token) :=
  globs.filterMap fun g => if g.isExclusion = exclusion then g.compile.toOption else none

theorem mem_patternsOf {exclusion : Bool} {tokens : List Glob.Token} :
    tokens ∈ patternsOf exclusion globs ↔
      ∃ g ∈ globs, g.isExclusion = exclusion ∧ g.compile = .ok tokens := by
  simp only [patternsOf, List.mem_filterMap, Option.ite_none_right_eq_some]
  refine exists_congr fun g => and_congr_right fun _ => and_congr_right fun _ => ?_
  cases g.compile <;> simp [Except.toOption]

/-- A glob is read together with what it is used for. -/
theorem read_eq_ok_iff {g : ContentGlob} {entry : Bool × List Glob.Token} :
    (do return (g.isExclusion, ← g.compile) : Except ThemeError _) = .ok entry ↔
      g.isExclusion = entry.1 ∧ g.compile = .ok entry.2 := by
  obtain ⟨exclusion, tokens⟩ := entry
  cases g.compile with
  | error e => simp [bind, Except.bind]
  | ok found => simp [bind, Except.bind, pure, Except.pure]

/-- What was read of the globs, sorted by what they are used for. -/
theorem map_filter_read {read : List (Bool × List Glob.Token)}
    (h : List.Forall₂ (fun g entry => g.isExclusion = entry.1 ∧ g.compile = .ok entry.2) globs read)
    (exclusion : Bool) :
    (read.filter fun entry => entry.1 == exclusion).map (·.2) = patternsOf exclusion globs := by
  induction h with
  | nil => rfl
  | @cons g entry globs read hg _ ih =>
    rw [List.filter_cons, patternsOf, List.filterMap_cons, ← patternsOf, ← ih, hg.1, hg.2]
    by_cases hentry : entry.1 = exclusion <;> simp [hentry, Except.toOption]

theorem setOf_eq_ok_iff {patterns : List (List Glob.Token)} {set : Glob.PatternSet} :
    setOf patterns = .ok set ↔
      (∀ tokens ∈ patterns, Glob.kindOf tokens ≠ .plain → Glob.isTooDeep tokens = false) ∧
        set = { patterns } := by
  rw [← Glob.PatternSet.ofPatterns_eq_ok_iff, setOf]
  cases Glob.PatternSet.ofPatterns patterns <;> simp

/-- A matcher is made of two sets. -/
theorem make_eq_ok_iff {included excluded : Except ThemeError Glob.PatternSet}
    {matcher : ContentMatcher} :
    (do return { included := ← included, excluded := ← excluded } :
        Except ThemeError ContentMatcher) = .ok matcher ↔
      included = .ok matcher.included ∧ excluded = .ok matcher.excluded := by
  obtain ⟨included', excluded'⟩ := matcher
  cases included with
  | error e => simp [bind, Except.bind]
  | ok included =>
    cases excluded with
    | error e => simp [bind, Except.bind]
    | ok excluded => simp [bind, Except.bind, pure, Except.pure]

/-- Once all globs can be read, the two sets of their patterns decide. -/
theorem ofGlobs_of_compile (h : ∀ g ∈ globs, ∃ tokens, g.compile = .ok tokens) :
    ofGlobs globs = (do return { included := ← setOf (patternsOf false globs)
                                 excluded := ← setOf (patternsOf true globs) }) := by
  have hitems : ∀ g ∈ globs, ∃ entry : Bool × List Glob.Token,
      (do return (g.isExclusion, ← g.compile) : Except ThemeError _) = .ok entry := by
    intro g hg
    obtain ⟨tokens, htokens⟩ := h g hg
    exact ⟨(g.isExclusion, tokens), read_eq_ok_iff.2 ⟨rfl, htokens⟩⟩
  obtain ⟨read, hread⟩ := exists_mapM_eq_ok_iff.2 hitems
  have hsorted := map_filter_read ((mapM_eq_ok_iff.1 hread).imp fun _ _ => read_eq_ok_iff.1)
  have hnot : (not ∘ fun entry : Bool × List Glob.Token => entry.1) = fun e => e.1 == false := by
    funext entry
    simp
  simp only [ofGlobs, hread, ← hsorted, List.partition_eq_filter_filter, hnot, beq_true]
  rfl

/-- A glob that cannot be read spoils the list. -/
theorem compile_of_ofGlobs {matcher : ContentMatcher} (h : ofGlobs globs = .ok matcher) :
    ∀ g ∈ globs, ∃ tokens, g.compile = .ok tokens := by
  rw [ofGlobs] at h
  cases hread : globs.mapM fun g => (do return (g.isExclusion, ← g.compile)) with
  | error e =>
    rw [hread] at h
    exact absurd h (by simp [bind, Except.bind])
  | ok read =>
    intro g hg
    obtain ⟨entry, hentry⟩ := exists_mapM_eq_ok_iff.1 ⟨read, hread⟩ g hg
    exact ⟨entry.2, (read_eq_ok_iff.1 hentry).2⟩

/-- A list makes a matcher when each of its globs fits, and the matcher holds their patterns. -/
theorem ofGlobs_eq_ok_iff {matcher : ContentMatcher} : ofGlobs globs = .ok matcher ↔
    (∀ g ∈ globs, g.Fits) ∧
      matcher = { included := { patterns := patternsOf false globs }
                  excluded := { patterns := patternsOf true globs } } := by
  -- Both sides ask for globs that can be read, so only the depth is left to compare.
  by_cases hcompile : ∀ g ∈ globs, ∃ tokens, g.compile = .ok tokens
  · have hfits : (∀ g ∈ globs, g.Fits) ↔ ∀ exclusion, ∀ tokens ∈ patternsOf exclusion globs,
        Glob.kindOf tokens ≠ .plain → Glob.isTooDeep tokens = false := by
      constructor
      · intro h exclusion tokens htokens
        obtain ⟨g, hg, -, hread⟩ := mem_patternsOf.1 htokens
        obtain ⟨tokens', htokens', hshallow⟩ := h g hg
        obtain rfl := Except.ok.inj (hread.symm.trans htokens')
        exact hshallow
      · intro h g hg
        obtain ⟨tokens, htokens⟩ := hcompile g hg
        exact ⟨tokens, htokens, h _ tokens (mem_patternsOf.2 ⟨g, hg, rfl, htokens⟩)⟩
    -- A matcher has two sets, one for each value of exclusion.
    obtain ⟨included, excluded⟩ := matcher
    rw [ofGlobs_of_compile hcompile, make_eq_ok_iff, setOf_eq_ok_iff, setOf_eq_ok_iff, hfits,
      Bool.forall_bool, and_and_and_comm, mk.injEq]
  · -- Some glob cannot be read: there is no matcher, and the glob does not fit.
    refine iff_of_false (fun h => hcompile (compile_of_ofGlobs h)) fun h => hcompile fun g hg => ?_
    obtain ⟨tokens, htokens, -⟩ := h.1 g hg
    exact ⟨tokens, htokens⟩

/-- A path is taken when a glob includes it and none excludes it. -/
theorem isMatch_iff {matcher : ContentMatcher} (h : ofGlobs globs = .ok matcher) (path : Path) :
    matcher.isMatch path = true ↔
      (∃ g ∈ globs, g.isExclusion = false ∧ g.Matches path.withoutHere) ∧
        ∀ g ∈ globs, g.isExclusion = true → ¬g.Matches path.withoutHere := by
  have hset (exclusion : Bool) : Glob.PatternSet.isMatch { patterns := patternsOf exclusion globs }
      path.withoutHere.text = true ↔
        ∃ g ∈ globs, g.isExclusion = exclusion ∧ g.Matches path.withoutHere := by
    simp only [Glob.PatternSet.isMatch, List.any_eq_true, mem_patternsOf, ContentGlob.Matches]
    constructor
    · rintro ⟨tokens, ⟨g, hg, hkind, htokens⟩, hmatch⟩
      exact ⟨g, hg, hkind, tokens, htokens, hmatch⟩
    · rintro ⟨g, hg, hkind, tokens, htokens, hmatch⟩
      exact ⟨tokens, ⟨g, hg, hkind, htokens⟩, hmatch⟩
  obtain ⟨-, rfl⟩ := ofGlobs_eq_ok_iff.1 h
  simp only [isMatch, Bool.and_eq_true, Bool.not_eq_true', ← Bool.not_eq_true, hset]
  simp only [not_exists, not_and]

/-- The order of the globs does not matter. -/
theorem exists_ofGlobs_of_perm {globs' : List ContentGlob} (hperm : globs.Perm globs')
    {matcher : ContentMatcher} (h : ofGlobs globs = .ok matcher) :
    ∃ matcher', ofGlobs globs' = .ok matcher' ∧
      ∀ path, matcher'.isMatch path = matcher.isMatch path := by
  obtain ⟨hfits, -⟩ := ofGlobs_eq_ok_iff.1 h
  have h' := ofGlobs_eq_ok_iff.2 ⟨fun g hg => hfits g (hperm.mem_iff.2 hg), rfl⟩
  refine ⟨_, h', fun path => ?_⟩
  rw [Bool.eq_iff_iff, isMatch_iff h', isMatch_iff h]
  simp only [hperm.mem_iff]

end ContentMatcher

end DocSite
