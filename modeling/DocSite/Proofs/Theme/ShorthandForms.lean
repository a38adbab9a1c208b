import DocSite.Proofs.Theme.ShorthandWords

/-!
# Forms of words

  A word of a shorthand tells by its form what it sets. The forms are tried in an
  order, but a word has one form at most, so the order decides nothing: numbers and
  times start as no other word does, a number has no unit, and a name is an
  identifier that nothing else claims.
-/

namespace DocSite

open DocSite.Text

/-! ## Letters of numbers -/

namespace Numeral

theorem mem_iff_of_takeSign {cs body : List Char} {negative : Bool}
    (h : takeSign cs = (negative, body)) : 's' ∈ cs ↔ 's' ∈ body := by
  unfold takeSign at h
  split at h
  · obtain ⟨-, rfl⟩ := Prod.mk.inj h
    simp
  · obtain ⟨-, rfl⟩ := Prod.mk.inj h
    simp
  · obtain ⟨-, rfl⟩ := Prod.mk.inj h
    rfl

theorem not_mem_of_readExponent? {cs : List Char} {e : Int} (h : readExponent? cs = some e) :
    's' ∉ cs := by
  cases cs with
  | nil => exact List.not_mem_nil
  | cons c rest =>
    rw [readExponent?] at h
    by_cases hc : (c == 'e' || c == 'E') = true
    · rw [if_pos hc] at h
      cases hsign : takeSign rest with
      | mk negative digits =>
        rw [hsign] at h
        by_cases hbad : (digits.isEmpty || !digits.all Char.isDigit) = true
        · simp [hbad] at h
        · simp only [Bool.or_eq_true, Bool.not_eq_true', not_or, Bool.not_eq_false,
            List.all_eq_true] at hbad
          obtain ⟨-, hdigits⟩ := hbad
          -- An exponent has digits and a sign, and begins with its own letter.
          have hrest : 's' ∉ rest := by
            rw [mem_iff_of_takeSign hsign]
            intro hmem
            exact absurd (hdigits _ hmem) (by decide)
          have hne : c ≠ 's' := by
            intro he
            rw [he] at hc
            revert hc
            decide
          simp [hrest, hne.symm]
    · rw [if_neg hc] at h
      cases h

theorem mem_iff_of_takeFraction {cs digits rest : List Char}
    (h : takeFraction cs = (digits, rest)) : 's' ∈ cs ↔ 's' ∈ rest := by
  unfold takeFraction at h
  split at h
  · rw [← mem_iff_of_span (by decide) h]
    simp
  · obtain ⟨-, rfl⟩ := Prod.mk.inj h
    rfl

theorem not_mem_of_readDecimal? {negative : Bool} {cs : List Char} {n : Numeral}
    (h : readDecimal? negative cs = some n) : 's' ∉ cs := by
  unfold readDecimal? at h
  cases hwhole : cs.span Char.isDigit with
  | mk whole tail =>
    cases hfraction : takeFraction tail with
    | mk fraction rest =>
      simp only [hwhole, hfraction] at h
      by_cases hempty : (whole.isEmpty && fraction.isEmpty) = true
      · rw [if_pos hempty] at h
        cases h
      · rw [if_neg hempty] at h
        obtain ⟨e, hexponent, -⟩ := Option.map_eq_some_iff.1 h
        rw [mem_iff_of_span (by decide) hwhole, mem_iff_of_takeFraction hfraction]
        exact not_mem_of_readExponent? hexponent

/-- No number has the letter of seconds in it. -/
theorem not_mem_of_parse? {cs : List Char} {n : Numeral} (h : parse? cs = some n) : 's' ∉ cs := by
  unfold parse? at h
  cases hsign : takeSign cs with
  | mk negative body =>
    rw [mem_iff_of_takeSign hsign]
    simp only [hsign] at h
    -- Nor is it a letter of the words that stand for numbers, in either case.
    have hword {text : String} (hs : 's' ∉ text.toList) (h : body.map Char.toLower = text.toList) :
        's' ∉ body := by
      intro hmem
      apply hs
      rw [← h]
      exact List.mem_map.2 ⟨'s', hmem, by decide⟩
    by_cases hinf : body.map Char.toLower = "inf".toList
    · exact hword (by decide) hinf
    · by_cases hinfinity : body.map Char.toLower = "infinity".toList
      · exact hword (by decide) hinfinity
      · by_cases hnan : body.map Char.toLower = "nan".toList
        · exact hword (by decide) hnan
        · simp only [hinf, hinfinity, hnan] at h
          exact not_mem_of_readDecimal? h

end Numeral

/-! ## Classes of words -/

/-- What a word of a shorthand can set. -/
inductive WordClass where
  | time
  | timing
  | iterations
  | direction
  | fillMode
  | playState
  | name
  deriving DecidableEq

/-- The class of what a word says; a comma, a number below zero and a word without a form have
none. -/
def AnimationWord.cls? : AnimationWord → Option WordClass
  | .time _ => some .time
  | .timing _ => some .timing
  | .iterations _ => some .iterations
  | .direction _ => some .direction
  | .fillMode _ => some .fillMode
  | .playState _ => some .playState
  | .name _ => some .name
  | .comma => none
  | .negativeCount => none
  | .unexpected _ => none

namespace Shorthand

/-- The words that are identifiers, but no names. -/
def keywords : List String := timingNames ++ "infinite" :: (directions ++ fillModes ++ playStates)

/-- What a word says by its form. -/
inductive Says (word : List Char) : AnimationWord → Prop
  | time {ms : Binary64} (h : time? word = some ms) : Says word (.time ms)
  | timing (h : isTiming word = true) : Says word (.timing (String.ofList word))
  | infinite (h : String.ofList word = "infinite") : Says word (.iterations .infinite)
  | count {n : Binary64} (h : number? word = some n) (hn : n.lt (.zero false) = false) :
    Says word (.iterations (.count n))
  | direction (h : String.ofList word ∈ directions) : Says word (.direction (String.ofList word))
  | fillMode (h : String.ofList word ∈ fillModes) : Says word (.fillMode (String.ofList word))
  | playState (h : String.ofList word ∈ playStates) : Says word (.playState (String.ofList word))
  /-- A name is an identifier that is no keyword, no time and no number. -/
  | name (h : isIdent word = true) (hkeyword : String.ofList word ∉ keywords)
    (htime : time? word = none) (hnumber : number? word = none) :
    Says word (.name (String.ofList word))

/-! ## Numbers and times -/

/-- What a number starts with. -/
def startsNumber (c : Char) : Bool := c.isDigit || c == '.' || c == '-'

theorem head_of_number? {word : List Char} {n : Binary64} (h : number? word = some n) :
    ∃ c ∈ word.head?, startsNumber c = true := by
  cases word with
  | nil => cases h
  | cons c rest =>
    refine ⟨c, rfl, ?_⟩
    by_cases hc : startsNumber c = true
    · exact hc
    · unfold startsNumber at hc
      rw [number?, if_neg hc] at h
      cases h

/-- A time is a number in front of its unit. -/
theorem exists_of_time? {word : List Char} {ms : Binary64} (h : time? word = some ms) :
    ∃ digits unit x, word = digits ++ unit ∧ number? digits = some x ∧ 's' ∈ unit := by
  rw [time?] at h
  cases hms : dropEnd? ['m', 's'] word with
  | some digits =>
    rw [hms] at h
    obtain ⟨pair, hpair, hnumber⟩ := Option.bind_eq_some_iff.1 h
    obtain rfl := Option.some.inj hpair
    obtain ⟨x, hx, -⟩ := Option.bind_eq_some_iff.1 hnumber
    exact ⟨digits, ['m', 's'], x, eq_append_of_dropEnd? hms, hx, by simp⟩
  | none =>
    rw [hms] at h
    obtain ⟨pair, hpair, hnumber⟩ := Option.bind_eq_some_iff.1 h
    obtain ⟨digits, hs, rfl⟩ := Option.map_eq_some_iff.1 hpair
    obtain ⟨x, hx, -⟩ := Option.bind_eq_some_iff.1 hnumber
    exact ⟨digits, ['s'], x, eq_append_of_dropEnd? hs, hx, by simp⟩

theorem head_of_time? {word : List Char} {ms : Binary64} (h : time? word = some ms) :
    ∃ c ∈ word.head?, startsNumber c = true := by
  obtain ⟨digits, unit, x, rfl, hx, -⟩ := exists_of_time? h
  obtain ⟨c, hc, hstart⟩ := head_of_number? hx
  refine ⟨c, ?_, hstart⟩
  rw [List.head?_append, Option.mem_def.1 hc]
  rfl

/-- A number is no time: it has no unit. -/
theorem time?_of_number? {word : List Char} {n : Binary64} (h : number? word = some n) :
    time? word = none := by
  cases htime : time? word with
  | none => rfl
  | some ms =>
    obtain ⟨digits, unit, x, hword, -, hs⟩ := exists_of_time? htime
    -- The check of the first character aside, a number is what reads as one.
    have hparse : Binary64.parse? word = some n := by
      obtain ⟨c, hc, hstart⟩ := head_of_number? h
      obtain ⟨tail, rfl⟩ := List.head?_eq_some_iff.1 hc
      unfold startsNumber at hstart
      rw [number?, if_pos hstart] at h
      exact h
    obtain ⟨numeral, hnumeral, -⟩ := Option.map_eq_some_iff.1 hparse
    refine absurd ?_ (Numeral.not_mem_of_parse? hnumeral)
    rw [hword]
    exact List.mem_append_right _ hs

/-- A word that does not start like a number is no number and no time. -/
theorem none_of_head {word : List Char} (h : ∀ c ∈ word.head?, startsNumber c = false) :
    time? word = none ∧ number? word = none := by
  constructor
  · cases htime : time? word with
    | none => rfl
    | some ms =>
      obtain ⟨c, hc, hstart⟩ := head_of_time? htime
      rw [h c hc] at hstart
      cases hstart
  · cases hnumber : number? word with
    | none => rfl
    | some n =>
      obtain ⟨c, hc, hstart⟩ := head_of_number? hnumber
      rw [h c hc] at hstart
      cases hstart

/-! ## One form for each word -/

/-- A timing function starts with a letter. -/
theorem head_of_isTiming {word : List Char} (h : isTiming word = true) :
    ∃ c ∈ word.head?, c.isLower = true := by
  rw [isTiming, Bool.or_eq_true, List.contains_iff_mem, List.any_eq_true] at h
  have hheads : ∀ text ∈ timingNames ++ timingFunctions,
      text.toList.head?.any Char.isLower = true := by decide
  rcases h with hmem | ⟨start, hmem, hprefix⟩
  · have hhead := hheads _ (List.mem_append_left _ hmem)
    rw [String.toList_ofList] at hhead
    exact (Option.any_eq_true _ _).1 hhead
  · obtain ⟨rest, rfl⟩ := (startsWith_iff _ _).1 hprefix
    obtain ⟨c, hc, hlower⟩ := (Option.any_eq_true _ _).1 (hheads _ (List.mem_append_right _ hmem))
    refine ⟨c, ?_, hlower⟩
    rw [List.head?_append, hc]
    rfl

/-- No letter starts a number. -/
theorem startsNumber_of_isAlpha {c : Char} (h : c.isAlpha = true) : startsNumber c = false := by
  have hne : c ≠ '.' ∧ c ≠ '-' := by
    constructor
    · intro he
      rw [he] at h
      exact absurd h (by decide)
    · intro he
      rw [he] at h
      exact absurd h (by decide)
  -- Both ranges of letters stand behind the digits.
  have hdigit : c.isDigit = false := by
    simp only [Char.isAlpha, Char.isUpper, Char.isLower, Bool.or_eq_true, Bool.and_eq_true,
      decide_eq_true_eq, ge_iff_le, UInt32.le_iff_toNat_le] at h
    simp only [Char.isDigit, Bool.and_eq_false_iff, decide_eq_false_iff_not, ge_iff_le,
      UInt32.le_iff_toNat_le]
    have hupper : 'A'.val.toNat = 65 := rfl
    have hlower : 'a'.val.toNat = 97 := rfl
    have hnine : '9'.val.toNat = 57 := rfl
    omega
  simp [startsNumber, hdigit, hne]

/-- A timing function is no number and no time. -/
theorem none_of_isTiming {word : List Char} (h : isTiming word = true) :
    time? word = none ∧ number? word = none := by
  apply none_of_head
  intro c hc
  obtain ⟨d, hd, hlower⟩ := head_of_isTiming h
  obtain rfl := Option.mem_unique hc hd
  exact startsNumber_of_isAlpha (by rw [Char.isAlpha, hlower, Bool.or_true])

/-- An identifier with the form of a timing function is one of their names. -/
theorem mem_keywords_of_isTiming {word : List Char} (hident : isIdent word = true)
    (h : isTiming word = true) : String.ofList word ∈ keywords := by
  rw [isTiming, Bool.or_eq_true, List.contains_iff_mem, List.any_eq_true] at h
  rcases h with hmem | ⟨start, hmem, hprefix⟩
  · exact List.mem_append_left _ hmem
  · -- The other timing functions have an opening parenthesis, identifiers have none.
    have hparens : ∀ text ∈ timingFunctions, '(' ∈ text.toList := by decide
    have hword : '(' ∈ word := ((startsWith_iff _ _).1 hprefix).subset (hparens start hmem)
    cases word with
    | nil => cases hident
    | cons c cs =>
      rw [isIdent, Bool.and_eq_true, List.all_eq_true] at hident
      exact absurd (hident.2 _ hword) (by decide)

/-- A comma has no form. -/
theorem Says.ne_comma {word : List Char} {m : AnimationWord} (h : Says word m) : word ≠ [','] := by
  have hkeywords : ∀ text ∈ directions ++ fillModes ++ playStates ++ ["infinite"],
      text ≠ String.ofList [','] := by decide
  rintro rfl
  cases h with
  | time h => cases h
  | timing h => exact absurd h (by decide)
  | infinite h => exact hkeywords "infinite" (by decide) h.symm
  | count h _ => cases h
  | direction h => exact hkeywords _ (by simp [h]) rfl
  | fillMode h => exact hkeywords _ (by simp [h]) rfl
  | playState h => exact hkeywords _ (by simp [h]) rfl
  | name h _ _ _ => exact absurd h (by decide)

/-- The form of a word decides what it says, whichever forms are tried before. -/
theorem Says.ofWord_eq {word : List Char} {m : AnimationWord} (h : Says word m) :
    AnimationWord.ofWord word = m := by
  have hcomma := h.ne_comma
  -- Keywords are finitely many, each is read by itself.
  have hnamed {names : List String} {f : String → AnimationWord}
      (hall : ∀ text ∈ names, AnimationWord.ofWord text.toList = f text)
      (hword : String.ofList word ∈ names) :
      AnimationWord.ofWord word = f (String.ofList word) := by
    rw [← hall _ hword, String.toList_ofList]
  cases h with
  | time h => simp [AnimationWord.ofWord, hcomma, h]
  | timing h => simp [AnimationWord.ofWord, hcomma, (none_of_isTiming h).1, h]
  | infinite h =>
    have hword : AnimationWord.ofWord "infinite".toList = .iterations .infinite := by decide +kernel
    rw [← h, String.toList_ofList] at hword
    exact hword
  | count h hn =>
    have htiming : isTiming word = false := by
      rw [Bool.eq_false_iff]
      intro htiming
      rw [(none_of_isTiming htiming).2] at h
      cases h
    -- The word for endless repetition is no number.
    have hinfinite : String.ofList word ≠ "infinite" := by
      intro he
      have hword : word = "infinite".toList := by rw [← he, String.toList_ofList]
      rw [hword] at h
      simp [number?] at h
    simp [AnimationWord.ofWord, hcomma, time?_of_number? h, htiming, hinfinite, h, hn]
  | direction h => exact hnamed (by decide +kernel) h
  | fillMode h => exact hnamed (by decide +kernel) h
  | playState h => exact hnamed (by decide +kernel) h
  | name h hkeyword htime hnumber =>
    have htiming : isTiming word = false := by
      rw [Bool.eq_false_iff]
      exact fun htiming => hkeyword (mem_keywords_of_isTiming h htiming)
    -- Not being a keyword rules out the lists that are tried in between.
    simp only [keywords, List.mem_append, List.mem_cons, not_or] at hkeyword
    obtain ⟨-, hinfinite, ⟨hdirection, hfill⟩, hplay⟩ := hkeyword
    simp [AnimationWord.ofWord, hcomma, htime, hnumber, htiming, hinfinite, hdirection, hfill,
      hplay, h]

/-- What has a class is said by a form. -/
theorem says_of_cls? {word : List Char} {k : WordClass}
    (h : (AnimationWord.ofWord word).cls? = some k) : Says word (AnimationWord.ofWord word) := by
  revert h
  fun_cases AnimationWord.ofWord word with
  | case1 => exact fun h => nomatch h
  | case2 _ ms htime => exact fun _ => .time htime
  | case3 _ _ _ htiming => exact fun _ => .timing htiming
  | case4 _ _ _ _ hinfinite => exact fun _ => .infinite hinfinite
  | case5 => exact fun h => nomatch h
  | case6 _ _ _ _ _ n hnumber hn => exact fun _ => .count hnumber (Bool.eq_false_iff.2 hn)
  | case7 _ _ _ _ _ _ hdirection => exact fun _ => .direction (List.contains_iff_mem.1 hdirection)
  | case8 _ _ _ _ _ _ _ hfill => exact fun _ => .fillMode (List.contains_iff_mem.1 hfill)
  | case9 _ _ _ _ _ _ _ _ hplay => exact fun _ => .playState (List.contains_iff_mem.1 hplay)
  | case10 text _ htime htiming hinfinite hnumber hdirection hfill hplay hident =>
    -- All forms before this one were tried, which is what a name asks for.
    intro _
    refine .name hident ?_ htime hnumber
    rw [List.contains_iff_mem] at hdirection hfill hplay
    have hnames : String.ofList word ∉ timingNames := by
      intro hmem
      apply htiming
      simp [isTiming, hmem]
    simp only [keywords, List.mem_append, List.mem_cons, not_or]
    exact ⟨hnames, hinfinite, ⟨hdirection, hfill⟩, hplay⟩
  | case11 => exact fun h => nomatch h

/-- The times are the words of their class. -/
theorem cls?_eq_time_iff {word : List Char} :
    (AnimationWord.ofWord word).cls? = some .time ↔ (time? word).isSome = true := by
  constructor
  · intro h
    have hsays := says_of_cls? h
    cases hword : AnimationWord.ofWord word with
    | time ms =>
      rw [hword] at hsays
      cases hsays with
      | time htime => rw [htime]; rfl
    | _ => rw [hword] at h; cases h
  · intro h
    obtain ⟨ms, hms⟩ := Option.isSome_iff_exists.1 h
    rw [Says.ofWord_eq (.time hms)]
    rfl

/-- Words with forms say what they are read as. -/
theorem eq_map_ofWord {words : List (List Char)} {meanings : List AnimationWord}
    (h : List.Forall₂ Says words meanings) : meanings = words.map .ofWord := by
  induction h with
  | nil => rfl
  | cons hword _ ih => rw [List.map_cons, Says.ofWord_eq hword, ← ih]

theorem says_map_iff {words : List (List Char)} :
    List.Forall₂ Says words (words.map .ofWord) ↔
      ∀ word ∈ words, (AnimationWord.ofWord word).cls?.isSome = true := by
  have hform {word : List Char} (h : Says word (.ofWord word)) :
      (AnimationWord.ofWord word).cls?.isSome = true := by
    generalize AnimationWord.ofWord word = m at h
    cases h with
    | _ => rfl
  rw [List.forall₂_map_right_iff, List.forall₂_same]
  constructor
  · intro h word hword
    exact hform (h word hword)
  · intro h word hword
    obtain ⟨k, hk⟩ := Option.isSome_iff_exists.1 (h word hword)
    exact says_of_cls? hk

end Shorthand

end DocSite
