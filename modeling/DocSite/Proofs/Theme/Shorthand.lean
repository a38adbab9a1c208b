import DocSite.Proofs.Theme.ShorthandForms

/-!
# What a shorthand says

  Each word of a shorthand goes to the slots of its class: two for times, one for
  every other class. So a shorthand makes sense exactly when its words have forms,
  no class has more words than slots, and one word is a name; and of the order of
  the words only that of the times matters.
-/

namespace DocSite

open DocSite.Text

/-! ## Slots -/

/-- How many words of a class a shorthand has room for. -/
def WordClass.room : WordClass → Nat
  | .time => 2
  | _ => 1

/-- The words of a class, in order. -/
def Shorthand.ofClass (k : WordClass) (meanings : List AnimationWord) : List AnimationWord :=
  meanings.filter fun m => m.cls? == some k

open Shorthand

namespace AnimationParts

/-- The words in the slots of a class, the duration before the delay. -/
def held (parts : AnimationParts) : WordClass → List AnimationWord
  | .time => (parts.duration.toList ++ parts.delay.toList).map .time
  | .timing => parts.timing.toList.map .timing
  | .iterations => parts.iterations.toList.map .iterations
  | .direction => parts.direction.toList.map .direction
  | .fillMode => parts.fillMode.toList.map .fillMode
  | .playState => parts.playState.toList.map .playState
  | .name => parts.name.toList.map .name

/-- The slots hold the words that were taken, in order; there is no delay without a duration. -/
structure Holds (parts : AnimationParts) (taken : List AnimationWord) : Prop where
  held : ∀ k, parts.held k = ofClass k taken
  ordered : parts.duration = none → parts.delay = none

/-- There is only so much room. -/
theorem length_held_le_room (parts : AnimationParts) (k : WordClass) :
    (parts.held k).length ≤ k.room := by
  have hslot {α : Type} (slot : Option α) : slot.toList.length ≤ 1 := by
    cases slot with
    | none => exact Nat.zero_le 1
    | some x => exact Nat.le_refl 1
  cases k with
  | time =>
    -- A time is held as the duration or as the delay.
    have hduration := hslot parts.duration
    have hdelay := hslot parts.delay
    rw [held, List.length_map, List.length_append]
    show _ ≤ 2
    omega
  | timing => exact (List.length_map _).trans_le (hslot _)
  | iterations => exact (List.length_map _).trans_le (hslot _)
  | direction => exact (List.length_map _).trans_le (hslot _)
  | fillMode => exact (List.length_map _).trans_le (hslot _)
  | playState => exact (List.length_map _).trans_le (hslot _)
  | name => exact (List.length_map _).trans_le (hslot _)

/-- A slot is set at most once. -/
theorem eq_of_setOnce {α : Type} {slot : Option α} {value : α} {problem : String}
    {set : Option α → AnimationParts} {parts : AnimationParts}
    (h : (do return set (← setOnce slot value problem)) = Except.ok parts) :
    slot = none ∧ parts = set (some value) := by
  cases slot with
  | none => exact ⟨rfl, (Except.ok.inj h).symm⟩
  | some x => cases h

/-- A slot without a word can be set. -/
theorem setOnce_of_free {α : Type} {slot : Option α} {f : α → AnimationWord}
    (hslot : (slot.toList.map f).length < 1) (value : α) (problem : String) :
    setOnce slot value problem = .ok (some value) := by
  cases slot with
  | none => rfl
  | some x => exact absurd hslot (Nat.lt_irrefl 1)

/-- A word that goes to the end of its slots is taken behind the others. -/
theorem Holds.snoc {parts parts' : AnimationParts} {taken : List AnimationWord} {m : AnimationWord}
    (hparts : parts.Holds taken) (hordered : parts'.duration = none → parts'.delay = none)
    (hheld : ∀ k, parts'.held k = parts.held k ++ ofClass k [m]) : parts'.Holds (taken ++ [m]) where
  held k := by rw [hheld, hparts.held, ofClass, ofClass, ofClass, List.filter_append]
  ordered := hordered

/-- A word that is taken has a class with room for it, and goes to the end of its slots. -/
theorem holds_add {parts parts' : AnimationParts} {taken : List AnimationWord} {m : AnimationWord}
    (hparts : parts.Holds taken) (h : parts.add m = .ok parts') :
    m.cls?.isSome = true ∧ parts'.Holds (taken ++ [m]) := by
  cases m with
  | comma => cases h
  | time ms =>
    refine ⟨rfl, ?_⟩
    rw [add] at h
    cases hduration : parts.duration with
    | none =>
      rw [hduration] at h
      obtain rfl := Except.ok.inj h
      -- A time without a duration in front of it is the duration, and no delay is there yet.
      have hdelay := hparts.ordered hduration
      refine hparts.snoc (fun _ => hdelay) ?_
      intro k
      cases k <;> simp [held, ofClass, AnimationWord.cls?, hduration, hdelay]
    | some duration =>
      -- With a duration in front of it the next time is the delay, and a third one is too many.
      cases hdelay : parts.delay with
      | none =>
        rw [hduration, hdelay] at h
        obtain rfl := Except.ok.inj h
        refine hparts.snoc (fun hnone => absurd hnone (by simp)) ?_
        intro k
        cases k <;> simp [held, ofClass, AnimationWord.cls?, hduration, hdelay]
      | some delay =>
        rw [hduration, hdelay] at h
        cases h
  | timing text =>
    -- Each of the other classes has one slot, which was free.
    obtain ⟨hslot, rfl⟩ := eq_of_setOnce h
    refine ⟨rfl, hparts.snoc hparts.ordered ?_⟩
    intro k
    cases k <;> simp [held, ofClass, AnimationWord.cls?, hslot]
  | iterations n =>
    obtain ⟨hslot, rfl⟩ := eq_of_setOnce h
    refine ⟨rfl, hparts.snoc hparts.ordered ?_⟩
    intro k
    cases k <;> simp [held, ofClass, AnimationWord.cls?, hslot]
  | negativeCount => cases h
  | direction text =>
    obtain ⟨hslot, rfl⟩ := eq_of_setOnce h
    refine ⟨rfl, hparts.snoc hparts.ordered ?_⟩
    intro k
    cases k <;> simp [held, ofClass, AnimationWord.cls?, hslot]
  | fillMode text =>
    obtain ⟨hslot, rfl⟩ := eq_of_setOnce h
    refine ⟨rfl, hparts.snoc hparts.ordered ?_⟩
    intro k
    cases k <;> simp [held, ofClass, AnimationWord.cls?, hslot]
  | playState text =>
    obtain ⟨hslot, rfl⟩ := eq_of_setOnce h
    refine ⟨rfl, hparts.snoc hparts.ordered ?_⟩
    intro k
    cases k <;> simp [held, ofClass, AnimationWord.cls?, hslot]
  | name text =>
    obtain ⟨hslot, rfl⟩ := eq_of_setOnce h
    refine ⟨rfl, hparts.snoc hparts.ordered ?_⟩
    intro k
    cases k <;> simp [held, ofClass, AnimationWord.cls?, hslot]
  | unexpected text => cases h

/-- A word whose class has room is taken. -/
theorem exists_add {parts : AnimationParts} {m : AnimationWord} {k : WordClass}
    (hk : m.cls? = some k) (hroom : (parts.held k).length < k.room) :
    ∃ parts', parts.add m = .ok parts' := by
  cases m with
  | comma => cases hk
  | time ms =>
    obtain rfl := Option.some.inj hk
    -- The first time is the duration and the second one the delay.
    rw [add]
    cases hduration : parts.duration with
    | none => exact ⟨_, rfl⟩
    | some duration =>
      cases hdelay : parts.delay with
      | none => exact ⟨_, rfl⟩
      | some delay => simp [held, WordClass.room, hduration, hdelay] at hroom
  | timing text =>
    obtain rfl := Option.some.inj hk
    exact ⟨_, by rw [add, setOnce_of_free hroom]; rfl⟩
  | iterations n =>
    obtain rfl := Option.some.inj hk
    exact ⟨_, by rw [add, setOnce_of_free hroom]; rfl⟩
  | negativeCount => cases hk
  | direction text =>
    obtain rfl := Option.some.inj hk
    exact ⟨_, by rw [add, setOnce_of_free hroom]; rfl⟩
  | fillMode text =>
    obtain rfl := Option.some.inj hk
    exact ⟨_, by rw [add, setOnce_of_free hroom]; rfl⟩
  | playState text =>
    obtain rfl := Option.some.inj hk
    exact ⟨_, by rw [add, setOnce_of_free hroom]; rfl⟩
  | name text =>
    obtain rfl := Option.some.inj hk
    exact ⟨_, by rw [add, setOnce_of_free hroom]; rfl⟩
  | unexpected text => cases hk

/-! ## All words -/

theorem holds_none : Holds {} [] where
  held k := by cases k <;> rfl
  ordered _ := rfl

/-- When all words are taken, each of them has a class, and the slots hold them in order. -/
theorem holds_addAll {parts parts' : AnimationParts} {taken : List AnimationWord}
    {words : List (List Char)} (hparts : parts.Holds taken) (h : parts.addAll words = .ok parts') :
    (∀ word ∈ words, (AnimationWord.ofWord word).cls?.isSome = true) ∧
      parts'.Holds (taken ++ words.map .ofWord) := by
  induction words generalizing parts taken with
  | nil =>
    obtain rfl := Except.ok.inj h
    refine ⟨fun word hword => absurd hword List.not_mem_nil, ?_⟩
    rw [List.map_nil, List.append_nil]
    exact hparts
  | cons word rest ih =>
    rw [addAll] at h
    cases hadd : parts.add (.ofWord word) with
    | error problem =>
      rw [hadd] at h
      cases h
    | ok next =>
      rw [hadd] at h
      obtain ⟨hword, hnext⟩ := holds_add hparts hadd
      -- What was taken so far grows by this word.
      obtain ⟨hrest, hparts'⟩ := ih hnext h
      refine ⟨List.forall_mem_cons.2 ⟨hword, hrest⟩, ?_⟩
      rw [List.append_assoc] at hparts'
      exact hparts'

/-- Words that all have a class are taken when no class has more of them than it has room for. -/
theorem exists_addAll {parts : AnimationParts} {taken : List AnimationWord}
    {words : List (List Char)} (hparts : parts.Holds taken)
    (hwords : ∀ word ∈ words, (AnimationWord.ofWord word).cls?.isSome = true)
    (hroom : ∀ k, (ofClass k (taken ++ words.map .ofWord)).length ≤ k.room) :
    ∃ parts', parts.addAll words = .ok parts' := by
  induction words generalizing parts taken with
  | nil => exact ⟨parts, rfl⟩
  | cons word rest ih =>
    obtain ⟨hword, hrest⟩ := List.forall_mem_cons.1 hwords
    obtain ⟨k, hk⟩ := Option.isSome_iff_exists.1 hword
    -- The words that are still to come count too, so there is room for this one.
    have hfree : (parts.held k).length < k.room := by
      have hall := hroom k
      rw [hparts.held]
      simp only [ofClass, List.filter_append, List.map_cons, List.filter_cons, hk, beq_self_eq_true,
        if_true, List.length_append, List.length_cons] at hall ⊢
      omega
    obtain ⟨next, hadd⟩ := exists_add hk hfree
    obtain ⟨-, hnext⟩ := holds_add hparts hadd
    have htaken : taken ++ (word :: rest).map AnimationWord.ofWord =
        (taken ++ [AnimationWord.ofWord word]) ++ rest.map AnimationWord.ofWord := by
      rw [List.map_cons, List.append_assoc, List.singleton_append]
    rw [htaken] at hroom
    obtain ⟨parts', hparts'⟩ := ih hnext hrest hroom
    refine ⟨parts', ?_⟩
    rw [addAll, hadd]
    exact hparts'

end AnimationParts

namespace Animation

/-- The slots of an animation; that of the name is taken. -/
def toParts (a : Animation) : AnimationParts where
  name := some a.name
  duration := a.duration
  delay := a.delay
  timing := a.timing
  iterations := a.iterations
  direction := a.direction
  fillMode := a.fillMode
  playState := a.playState

theorem finish_eq_ok_iff {parts : AnimationParts} {a : Animation} :
    parts.finish = .ok a ↔ parts = a.toParts := by
  constructor
  · intro h
    rw [AnimationParts.finish] at h
    cases hname : parts.name with
    | none =>
      rw [hname] at h
      cases h
    | some name =>
      rw [hname] at h
      obtain rfl := Except.ok.inj h
      rw [toParts, ← hname]
  · intro h
    rw [h]
    rfl

theorem parse_eq_ok_iff {s : String} {a : Animation} :
    parse s = .ok a ↔
      ∃ words, words? s.toList = some words ∧ AnimationParts.addAll {} words = .ok a.toParts := by
  have hread : parse s = .ok a ↔ read s.toList = .ok a := by
    rw [parse]
    cases read s.toList <;> simp
  rw [hread, read]
  cases words? s.toList with
  | none => simp
  | some words =>
    cases hparts : AnimationParts.addAll {} words with
    | error problem => simp [hparts, bind, Except.bind]
    | ok parts => simp [hparts, bind, Except.bind, finish_eq_ok_iff]

/-- The animation is put together from words of their classes: the first two times are the
duration and the delay, and each other slot has the one word of its class. -/
structure Takes (a : Animation) (meanings : List AnimationWord) : Prop where
  name : ofClass .name meanings = [.name a.name]
  duration : (ofClass .time meanings)[0]? = a.duration.map .time
  delay : (ofClass .time meanings)[1]? = a.delay.map .time
  timing : ofClass .timing meanings = a.timing.toList.map .timing
  iterations : ofClass .iterations meanings = a.iterations.toList.map .iterations
  direction : ofClass .direction meanings = a.direction.toList.map .direction
  fillMode : ofClass .fillMode meanings = a.fillMode.toList.map .fillMode
  playState : ofClass .playState meanings = a.playState.toList.map .playState

theorem takes_of_holds {a : Animation} {meanings : List AnimationWord}
    (h : a.toParts.Holds meanings) : a.Takes meanings := by
  have htimes : ofClass .time meanings = (a.duration.toList ++ a.delay.toList).map .time :=
    (h.held .time).symm
  have hordered : a.duration = none → a.delay = none := h.ordered
  refine ⟨(h.held .name).symm, ?_, ?_, (h.held .timing).symm, (h.held .iterations).symm,
    (h.held .direction).symm, (h.held .fillMode).symm, (h.held .playState).symm⟩
  · -- The first of the times is the duration, the second one the delay.
    rw [htimes]
    cases hduration : a.duration with
    | none => simp [hordered hduration]
    | some duration => rfl
  · rw [htimes]
    cases hduration : a.duration with
    | none => simp [hordered hduration]
    | some duration =>
      cases a.delay with
      | none => rfl
      | some delay => rfl

/-- The words of each class make the animation. -/
theorem eq_of_takes {a a' : Animation} {meanings meanings' : List AnimationWord}
    (h : a.Takes meanings) (h' : a'.Takes meanings')
    (hsame : ∀ k, ofClass k meanings' = ofClass k meanings) : a' = a := by
  -- The constructor of a class loses nothing, so its slot can be compared by its words.
  have htime {x y : Option Binary64} (hxy : x.map AnimationWord.time = y.map .time) : x = y :=
    Option.map_injective (fun _ _ => AnimationWord.time.inj) hxy
  have hslot {α : Type} {f : α → AnimationWord} (hf : Function.Injective f) {x y : Option α}
      (hxy : x.toList.map f = y.toList.map f) : x = y := by
    have hlists := congrArg List.head? (hf.list_map hxy)
    rwa [Option.head?_toList, Option.head?_toList] at hlists
  have hname : a'.name = a.name := by
    have hnames := h'.name.symm.trans ((hsame .name).trans h.name)
    exact AnimationWord.name.inj (List.singleton_injective hnames)
  have hduration : a'.duration = a.duration := by
    apply htime
    rw [← h'.duration, ← h.duration, hsame]
  have hdelay : a'.delay = a.delay := by
    apply htime
    rw [← h'.delay, ← h.delay, hsame]
  have htiming : a'.timing = a.timing := by
    apply hslot (fun _ _ => AnimationWord.timing.inj)
    rw [← h'.timing, ← h.timing, hsame]
  have hiterations : a'.iterations = a.iterations := by
    apply hslot (fun _ _ => AnimationWord.iterations.inj)
    rw [← h'.iterations, ← h.iterations, hsame]
  have hdirection : a'.direction = a.direction := by
    apply hslot (fun _ _ => AnimationWord.direction.inj)
    rw [← h'.direction, ← h.direction, hsame]
  have hfill : a'.fillMode = a.fillMode := by
    apply hslot (fun _ _ => AnimationWord.fillMode.inj)
    rw [← h'.fillMode, ← h.fillMode, hsame]
  have hplay : a'.playState = a.playState := by
    apply hslot (fun _ _ => AnimationWord.playState.inj)
    rw [← h'.playState, ← h.playState, hsame]
  cases a
  cases a'
  congr

end Animation

/-! ## The order of words -/

namespace Shorthand

/-- The words that are times, in order. -/
def times (words : List (List Char)) : List (List Char) :=
  words.filter fun word => (time? word).isSome

/-- Words in another order have the same words of each class, if the times keep theirs. -/
theorem ofClass_of_perm {words words' : List (List Char)} (hperm : words'.Perm words)
    (htimes : times words' = times words)
    (hroom : ∀ k, (ofClass k (words.map .ofWord)).length ≤ k.room) (k : WordClass) :
    ofClass k (words'.map .ofWord) = ofClass k (words.map .ofWord) := by
  by_cases hk : k = .time
  · -- The words of this class are the times, whose order is kept.
    have hclass (words : List (List Char)) :
        ofClass .time (words.map .ofWord) = (times words).map .ofWord := by
      rw [ofClass, List.filter_map, times]
      congr 1
      apply List.filter_congr
      intro word _
      rw [Bool.eq_iff_iff, Function.comp_apply, beq_iff_eq, cls?_eq_time_iff]
    rw [hk, hclass, hclass, htimes]
  · -- Of any other class there is one word at most, and one word has no order.
    have hone : (ofClass k (words.map .ofWord)).length ≤ 1 := by
      have hle := hroom k
      cases k with
      | time => exact absurd rfl hk
      | _ => exact hle
    have hsame : (ofClass k (words'.map .ofWord)).Perm (ofClass k (words.map .ofWord)) :=
      (hperm.map _).filter _
    cases hlist : ofClass k (words.map .ofWord) with
    | nil =>
      rw [hlist] at hsame
      exact hsame.eq_nil
    | cons m rest =>
      rw [hlist] at hone hsame
      have hrest : rest = [] := by
        rw [← List.length_eq_zero_iff]
        simp only [List.length_cons] at hone
        omega
      rw [hrest] at hsame ⊢
      exact List.perm_singleton.1 hsame

/-- What the words of a shorthand say together makes sense: no class has more words than it has
room for, and there is a name. -/
structure Admissible (meanings : List AnimationWord) : Prop where
  room : ∀ k, (ofClass k meanings).length ≤ k.room
  name : (ofClass .name meanings).length = 1

end Shorthand

namespace Animation

/-- A shorthand of words with forms makes sense exactly when the words do together. -/
theorem exists_parse_iff {s : String} {words : List (List Char)}
    (hwords : words? s.toList = some words) :
    (∃ a, parse s = .ok a) ↔
      (∀ word ∈ words, (AnimationWord.ofWord word).cls?.isSome = true) ∧
        Admissible (words.map .ofWord) := by
  constructor
  · intro h
    obtain ⟨a, ha⟩ := h
    obtain ⟨words', hwords', hadd⟩ := parse_eq_ok_iff.1 ha
    obtain rfl := Option.some.inj (hwords.symm.trans hwords')
    obtain ⟨hforms, hholds⟩ := AnimationParts.holds_addAll AnimationParts.holds_none hadd
    rw [List.nil_append] at hholds
    refine ⟨hforms, ?_, ?_⟩
    · intro k
      rw [← hholds.held]
      exact AnimationParts.length_held_le_room _ k
    · rw [← hholds.held]
      rfl
  · intro h
    obtain ⟨hforms, hroom, hname⟩ := h
    obtain ⟨parts, hadd⟩ := AnimationParts.exists_addAll AnimationParts.holds_none hforms hroom
    obtain ⟨-, hholds⟩ := AnimationParts.holds_addAll AnimationParts.holds_none hadd
    -- The one name is in its slot, so the slots can be finished.
    have hslot : (parts.held .name).length = 1 := by rw [hholds.held, List.nil_append, hname]
    cases hparts : parts.name with
    | none =>
      rw [AnimationParts.held, hparts] at hslot
      cases hslot
    | some name =>
      have hfinish : ∃ a, parts.finish = .ok a := by
        rw [AnimationParts.finish, hparts]
        exact ⟨_, rfl⟩
      obtain ⟨a, ha⟩ := hfinish
      refine ⟨a, parse_eq_ok_iff.2 ⟨words, hwords, ?_⟩⟩
      rw [hadd, finish_eq_ok_iff.1 ha]

theorem takes_of_parse {s : String} {words : List (List Char)} {a : Animation}
    (hwords : words? s.toList = some words) (h : parse s = .ok a) :
    a.Takes (words.map .ofWord) := by
  obtain ⟨words', hwords', hadd⟩ := parse_eq_ok_iff.1 h
  obtain rfl := Option.some.inj (hwords.symm.trans hwords')
  exact takes_of_holds (AnimationParts.holds_addAll AnimationParts.holds_none hadd).2

/-- A shorthand is read word by word, and the order of its words does not matter, except for that
of the times. -/
theorem parse_reorder {s : String} {words words' : List (List Char)} {a : Animation}
    (hwords : words? s.toList = some words) (h : parse s = .ok a) (hperm : words'.Perm words)
    (htimes : times words' = times words) :
    parse (String.ofList (joinWith [' '] words')) = .ok a := by
  obtain ⟨hforms, hroom, hname⟩ := (exists_parse_iff hwords).1 ⟨a, h⟩
  have hsame := ofClass_of_perm hperm htimes hroom
  have hwords' : words? (String.ofList (joinWith [' '] words')).toList = some words' := by
    rw [String.toList_ofList]
    exact words?_joinWith fun word hword => isWord_of_words? hwords word (hperm.subset hword)
  -- The same words of each class fit as well as before, and they make the same animation.
  have hparse : ∃ a', parse (String.ofList (joinWith [' '] words')) = .ok a' := by
    refine (exists_parse_iff hwords').2 ⟨?_, ?_, ?_⟩
    · intro word hword
      exact hforms word (hperm.subset hword)
    · intro k
      rw [hsame]
      exact hroom k
    · rw [hsame]
      exact hname
  obtain ⟨a', ha'⟩ := hparse
  rw [ha', eq_of_takes (takes_of_parse hwords h) (takes_of_parse hwords' ha') hsame]

/-- Shorthands are read by content. A shorthand makes sense exactly when its parentheses match, it
has no comma, each word has a form, and the words make sense together; no word has two forms. The
animation takes what its words say, and words in any order that keeps that of the times make the
same animation. -/
theorem parse_by_content (s : String) :
    ((∃ a, parse s = .ok a) ↔
      Balanced s.toList ∧ ∃ words meanings, words? s.toList = some words ∧ [','] ∉ words ∧
        List.Forall₂ Says words meanings ∧ Admissible meanings) ∧
    (∀ word m m', Says word m → Says word m' → m = m') ∧
    ∀ words meanings a, words? s.toList = some words → List.Forall₂ Says words meanings →
      parse s = .ok a →
      a.Takes meanings ∧
        ∀ words', words'.Perm words → times words' = times words →
          parse (String.ofList (joinWith [' '] words')) = .ok a := by
  refine ⟨⟨?_, ?_⟩, ?_, ?_⟩
  · intro h
    obtain ⟨a, ha⟩ := h
    obtain ⟨words, hwords, -⟩ := parse_eq_ok_iff.1 ha
    obtain ⟨hforms, hadmissible⟩ := (exists_parse_iff hwords).1 ⟨a, ha⟩
    refine ⟨isSome_words?_iff.1 (Option.isSome_of_eq_some hwords), words, words.map .ofWord, hwords,
      ?_, says_map_iff.2 hforms, hadmissible⟩
    intro hcomma
    exact absurd (hforms _ hcomma) (by decide)
  · intro h
    obtain ⟨-, words, meanings, hwords, -, hsays, hadmissible⟩ := h
    obtain rfl := eq_map_ofWord hsays
    exact (exists_parse_iff hwords).2 ⟨says_map_iff.1 hsays, hadmissible⟩
  · intro word m m' h h'
    rw [← Says.ofWord_eq h, ← Says.ofWord_eq h']
  · intro words meanings a hwords hsays ha
    obtain rfl := eq_map_ofWord hsays
    refine ⟨takes_of_parse hwords ha, ?_⟩
    intro words' hperm htimes
    exact parse_reorder hwords ha hperm htimes

/-- A shorthand that sets everything. -/
def fullShorthand : String :=
  "spin 300ms cubic-bezier(0.4, 0, 0.2, 1) 100ms 3 alternate both paused"

/-- Its words in another order, the times in theirs. -/
def fullReordered : List (List Char) :=
  ["paused", "both", "300ms", "3", "cubic-bezier(0.4, 0, 0.2, 1)", "spin", "100ms",
    "alternate"].map String.toList

/-- What both say. -/
def fullAnimation : Animation where
  name := "spin"
  duration := some (.ofInt 300)
  delay := some (.ofInt 100)
  timing := some "cubic-bezier(0.4, 0, 0.2, 1)"
  iterations := some (.count (.ofInt 3))
  direction := some "alternate"
  fillMode := some "both"
  playState := some "paused"

theorem parse_by_content_full :
    parse fullShorthand = .ok fullAnimation ∧
      parse (String.ofList (joinWith [' '] fullReordered)) = .ok fullAnimation := by
  have hparse : parse fullShorthand = .ok fullAnimation := by decide +kernel
  obtain ⟨hiff, -, hread⟩ := parse_by_content fullShorthand
  obtain ⟨-, words, meanings, hwords, -, hsays, -⟩ := hiff.1 ⟨fullAnimation, hparse⟩
  obtain ⟨-, horder⟩ := hread words meanings fullAnimation hwords hsays hparse
  have hcut : words? fullShorthand.toList = some
      (["spin", "300ms", "cubic-bezier(0.4, 0, 0.2, 1)", "100ms", "3", "alternate", "both",
        "paused"].map String.toList) := by decide +kernel
  obtain rfl := Option.some.inj (hwords.symm.trans hcut)
  exact ⟨hparse, horder fullReordered (by decide +kernel) (by decide +kernel)⟩

end Animation

end DocSite
