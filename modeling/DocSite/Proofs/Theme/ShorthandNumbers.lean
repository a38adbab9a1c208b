import DocSite.Proofs.Number.Amount
import DocSite.Proofs.Theme.Shorthand

/-!
# The numbers of a shorthand

  The times of an animation are amounts: what is NaN or below zero is no time. A
  number of iterations is never below zero either, but the comparison that sees to
  it lets NaN pass. Of the words that stand for infinity and NaN only one gets that
  far, the NaN with a minus, because a number may start with a minus but with no
  letter and no plus.
-/

namespace DocSite

open DocSite.Text

/-! ## Words for infinity and NaN -/

namespace Numeral

/-- The words that are read as numbers without having digits. -/
def nameTexts : List String := ["inf", "infinity", "nan"]

/-- A word for infinity or NaN in any case, with or without a sign. -/
def IsNumberName (word : List Char) : Prop :=
  ∃ sign ∈ [[], ['+'], ['-']], ∃ name ∈ nameTexts, word.map Char.toLower = sign ++ name.toList

/-- The word for NaN in any case, with a minus. -/
def IsMinusNan (word : List Char) : Prop := word.map Char.toLower = '-' :: "nan".toList

/-- Only letters have another lower case. -/
theorem toLower_of_not_isAlpha {c : Char} (h : c.toLower.isAlpha = false) : c.toLower = c := by
  rw [Char.isAlpha_toLower_eq_isAlpha] at h
  apply Char.toLower_eq_of_not_isUpper
  intro hupper
  rw [Char.isAlpha, hupper, Bool.true_or] at h
  cases h

theorem readDecimal?_ne_nan (negative : Bool) (cs : List Char) :
    readDecimal? negative cs ≠ some .nan := by
  unfold readDecimal?
  simp only
  split
  · nofun
  · intro h
    obtain ⟨e, -, hvalue⟩ := Option.map_eq_some_iff.1 h
    cases hvalue

/-- What is read as NaN is a word for it. -/
theorem isNumberName_of_parse? {cs : List Char} (h : parse? cs = some .nan) :
    IsNumberName cs := by
  -- Only the third of the words gives NaN, in any case of its letters.
  have hbody {negative : Bool} {body : List Char} (hsign : takeSign cs = (negative, body)) :
      body.map Char.toLower = "nan".toList := by
    simp only [parse?, hsign] at h
    split at h
    · cases h
    · split at h
      · assumption
      · exact absurd h (readDecimal?_ne_nan negative body)
  have hname : "nan" ∈ nameTexts := by decide
  -- The sign is a minus, a plus, or missing.
  unfold takeSign at hbody
  split at hbody
  · refine ⟨['-'], by decide, "nan", hname, ?_⟩
    rw [List.map_cons, hbody rfl]
    rfl
  · refine ⟨['+'], by decide, "nan", hname, ?_⟩
    rw [List.map_cons, hbody rfl]
    rfl
  · exact ⟨[], by decide, "nan", hname, hbody rfl⟩

end Numeral

namespace Shorthand

open Numeral

/-- A word with a minus in lower case has one as it is written. -/
theorem exists_minus {word text : List Char} (h : word.map Char.toLower = '-' :: text) :
    ∃ rest, word = '-' :: rest ∧ rest.map Char.toLower = text := by
  obtain ⟨c, rest, rfl, hc, hrest⟩ := List.map_eq_cons_iff.1 h
  have hminus : c = '-' := by
    rw [← hc]
    exact (toLower_of_not_isAlpha (by rw [hc]; decide)).symm
  exact ⟨rest, by rw [hminus], hrest⟩

theorem number?_of_isMinusNan {word : List Char} (h : IsMinusNan word) :
    number? word = some .nan := by
  obtain ⟨rest, rfl, hrest⟩ := exists_minus h
  have hparse : Numeral.parse? ('-' :: rest) = some .nan := by
    simp [Numeral.parse?, takeSign, hrest]
  show (Numeral.parse? ('-' :: rest)).map Binary64.ofNumeral = some .nan
  rw [hparse]
  rfl

/-- Of the words for infinity and NaN those with a minus are read as numbers. -/
theorem number?_of_isNumberName {word : List Char} (hname : IsNumberName word) {n : Binary64}
    (h : number? word = some n) : n = .infinite true ∨ IsMinusNan word ∧ n = .nan := by
  obtain ⟨c, hc, hstart⟩ := head_of_number? h
  obtain ⟨sign, hsign, name, hname, hword⟩ := hname
  have hhead : (sign ++ name.toList).head? = some c.toLower := by
    rw [← hword, List.head?_map, Option.mem_def.1 hc]
    rfl
  simp only [List.mem_cons, List.not_mem_nil, or_false] at hsign
  rcases hsign with rfl | rfl | rfl
  · -- Without a sign the word starts with a letter, and so does no number.
    have hletter : c.toLower.isAlpha = true := by
      have hall : ∀ name ∈ nameTexts, name.toList.head?.all Char.isAlpha = true := by decide
      have hnamed := hall name hname
      rw [List.nil_append] at hhead
      rwa [hhead] at hnamed
    rw [Char.isAlpha_toLower_eq_isAlpha] at hletter
    rw [startsNumber_of_isAlpha hletter] at hstart
    cases hstart
  · -- With a plus the word starts as no number does.
    have hplus : c.toLower = '+' := (Option.some.inj hhead).symm
    have hc : c = '+' := by
      rw [← hplus]
      exact (toLower_of_not_isAlpha (by rw [hplus]; decide)).symm
    rw [hc] at hstart
    exact absurd hstart (by decide)
  · -- With a minus it is read, and which word it is decides about the value.
    obtain ⟨rest, rfl, hrest⟩ := exists_minus hword
    have hinfinite (hrest : rest.map Char.toLower = "inf".toList ∨
        rest.map Char.toLower = "infinity".toList) : n = .infinite true := by
      have hparse : Numeral.parse? ('-' :: rest) = some (.infinite true) := by
        rcases hrest with hrest | hrest
        · simp [Numeral.parse?, takeSign, hrest]
        · simp [Numeral.parse?, takeSign, hrest]
      change (Numeral.parse? ('-' :: rest)).map Binary64.ofNumeral = some n at h
      rw [hparse] at h
      exact (Option.some.inj h).symm
    simp only [nameTexts, List.mem_cons, List.not_mem_nil, or_false] at hname
    rcases hname with rfl | rfl | rfl
    · exact .inl (hinfinite (.inl hrest))
    · exact .inl (hinfinite (.inr hrest))
    · have hnan := number?_of_isMinusNan hword
      exact .inr ⟨hword, Option.some.inj (h.symm.trans hnan)⟩

/-- NaN is read from the word with a minus, and from no other one. -/
theorem number?_eq_nan_iff {word : List Char} : number? word = some .nan ↔ IsMinusNan word := by
  constructor
  · intro h
    have hname : IsNumberName word := by
      obtain ⟨c, hc, hstart⟩ := head_of_number? h
      obtain ⟨rest, rfl⟩ := List.head?_eq_some_iff.1 hc
      unfold startsNumber at hstart
      rw [number?, if_pos hstart] at h
      obtain ⟨numeral, hparse, hnan⟩ := Option.map_eq_some_iff.1 h
      rw [Binary64.ofNumeral_eq_nan_iff.1 hnan] at hparse
      exact isNumberName_of_parse? hparse
    rcases number?_of_isNumberName hname h with hinfinite | ⟨hminus, -⟩
    · cases hinfinite
    · exact hminus
  · exact number?_of_isMinusNan

/-! ## Times and counts -/

/-- A time is an amount of milliseconds, whichever unit it is written in. -/
theorem isAmount_of_time? {word : List Char} {ms : Binary64} (h : time? word = some ms) :
    ms.IsAmount := by
  -- Both units do the same with another factor: an amount times a finite number is an amount.
  have hunit {scale : Int} {m : Nat} {e : Int} (hscale : Binary64.ofInt scale = .finite false m e)
      (hm : m ≠ 0) {digits : List Char}
      (h : (do
        let x ← number? digits
        if (Binary64.zero false).le x then some (x * Binary64.ofInt scale) else none) = some ms) :
      ms.IsAmount := by
    obtain ⟨x, -, hx⟩ := Option.bind_eq_some_iff.1 h
    split at hx
    · rename_i hle
      obtain rfl := Option.some.inj hx
      rw [hscale]
      exact Binary64.isAmount_mul (Binary64.isAmount_of_zero_le hle) hm e
    · cases hx
  rw [time?] at h
  cases hms : dropEnd? ['m', 's'] word with
  | some digits =>
    rw [hms] at h
    exact hunit (m := 2 ^ 52) (e := -52) (by decide +kernel) (by decide) h
  | none =>
    rw [hms] at h
    obtain ⟨pair, hpair, hnumber⟩ := Option.bind_eq_some_iff.1 h
    obtain ⟨digits, -, rfl⟩ := Option.map_eq_some_iff.1 hpair
    exact hunit (m := 1000 * 2 ^ 43) (e := -43) (by decide +kernel) (by decide) hnumber

/-- A word that is read as a count is a number that is not below zero, if it is a number at all. -/
theorem number?_of_ofWord_count {word : List Char} {n : Binary64}
    (h : AnimationWord.ofWord word = .iterations (.count n)) :
    number? word = some n ∧ n.lt (.zero false) = false := by
  have hsays : Says word (.iterations (.count n)) := by
    rw [← h]
    exact says_of_cls? (k := .iterations) (by rw [h]; rfl)
  cases hsays with
  | count hnumber hn => exact ⟨hnumber, hn⟩

theorem ofWord_of_isMinusNan {word : List Char} (h : IsMinusNan word) :
    AnimationWord.ofWord word = .iterations (.count .nan) :=
  Says.ofWord_eq (.count (number?_of_isMinusNan h) rfl)

end Shorthand

namespace Animation

open Numeral Shorthand

/-! ## Animations -/

/-- What an animation takes was said by one of the words. -/
theorem exists_word_of_mem {words : List (List Char)} {k : WordClass} {m : AnimationWord}
    (h : m ∈ ofClass k (words.map .ofWord)) : ∃ word ∈ words, AnimationWord.ofWord word = m :=
  List.mem_map.1 (List.mem_filter.1 h).1

theorem isAmount_of_mem_times {words : List (List Char)} {ms : Binary64}
    (h : AnimationWord.time ms ∈ ofClass .time (words.map .ofWord)) : ms.IsAmount := by
  obtain ⟨word, -, hword⟩ := exists_word_of_mem h
  have hsays : Says word (.time ms) := by
    rw [← hword]
    exact says_of_cls? (k := .time) (by rw [hword]; rfl)
  cases hsays with
  | time htime => exact isAmount_of_time? htime

/-- The times of an animation are amounts. -/
theorem isAmount_of_parse {s : String} {a : Animation} (h : parse s = .ok a) {ms : Binary64}
    (hms : a.duration = some ms ∨ a.delay = some ms) : ms.IsAmount := by
  obtain ⟨words, hwords, -⟩ := parse_eq_ok_iff.1 h
  have htakes := takes_of_parse hwords h
  rcases hms with hduration | hdelay
  · have hfirst := htakes.duration
    rw [hduration] at hfirst
    exact isAmount_of_mem_times (List.mem_of_getElem? hfirst)
  · have hsecond := htakes.delay
    rw [hdelay] at hsecond
    exact isAmount_of_mem_times (List.mem_of_getElem? hsecond)

/-- The number of iterations is the one word that is a count. -/
theorem iterations_of_parse {s : String} {words : List (List Char)} {a : Animation}
    (hwords : words? s.toList = some words) (h : parse s = .ok a) {n : Iterations} :
    a.iterations = some n ↔ ∃ word ∈ words, AnimationWord.ofWord word = .iterations n := by
  have hslot := (takes_of_parse hwords h).iterations
  constructor
  · intro hn
    have htaken : AnimationWord.iterations n ∈ ofClass .iterations (words.map .ofWord) := by
      rw [hslot, hn]
      exact List.mem_singleton.2 rfl
    exact exists_word_of_mem htaken
  · intro hword
    obtain ⟨word, hmem, hword⟩ := hword
    have htaken : AnimationWord.iterations n ∈ ofClass .iterations (words.map .ofWord) :=
      List.mem_filter.2 ⟨List.mem_map.2 ⟨word, hmem, hword⟩, rfl⟩
    rw [hslot, List.mem_map] at htaken
    obtain ⟨m, hm, hsame⟩ := htaken
    rw [← AnimationWord.iterations.inj hsame]
    exact Option.mem_toList.1 hm

/-- A shorthand with the word for NaN with a minus. -/
def SaysMinusNan (s : String) : Prop :=
  ∃ words, words? s.toList = some words ∧ ∃ word ∈ words, IsMinusNan word

/-- The times of an animation are amounts, and its number of iterations is not below zero. That
number is NaN exactly when the shorthand has the word for NaN with a minus, the only one of the
words for infinity and NaN that is read as a number of iterations. -/
theorem numbers_of_parse {s : String} {a : Animation} (h : parse s = .ok a) :
    (∀ ms, a.duration = some ms ∨ a.delay = some ms → ms.IsAmount) ∧
    (∀ n, a.iterations = some (.count n) →
      n.lt (.zero false) = false ∧ (n = .nan ↔ SaysMinusNan s)) ∧
    ∀ word, IsNumberName word →
      ((∃ n, AnimationWord.ofWord word = .iterations (.count n)) ↔ IsMinusNan word) := by
  obtain ⟨words, hwords, -⟩ := parse_eq_ok_iff.1 h
  refine ⟨fun ms hms => isAmount_of_parse h hms, ?_, ?_⟩
  · intro n hn
    obtain ⟨word, hmem, hword⟩ := (iterations_of_parse hwords h).1 hn
    obtain ⟨hnumber, hbelow⟩ := number?_of_ofWord_count hword
    refine ⟨hbelow, ?_, ?_⟩
    · intro hnan
      rw [hnan] at hnumber
      exact ⟨words, hwords, word, hmem, number?_eq_nan_iff.1 hnumber⟩
    · intro hsays
      obtain ⟨words', hwords', word', hmem', hminus⟩ := hsays
      obtain rfl := Option.some.inj (hwords.symm.trans hwords')
      -- There is room for one count, so the word with the minus is the one that was taken.
      have htaken := (iterations_of_parse hwords h).2 ⟨word', hmem', ofWord_of_isMinusNan hminus⟩
      exact Iterations.count.inj (Option.some.inj (hn.symm.trans htaken))
  · intro word hname
    constructor
    · intro hcount
      obtain ⟨n, hn⟩ := hcount
      obtain ⟨hnumber, hbelow⟩ := number?_of_ofWord_count hn
      rcases number?_of_isNumberName hname hnumber with rfl | ⟨hminus, -⟩
      · exact absurd hbelow (by decide)
      · exact hminus
    · intro hminus
      exact ⟨.nan, ofWord_of_isMinusNan hminus⟩

/-- A name that looks like a number, a fraction of a second, and a zero with a minus. -/
def namedInf : Animation where
  name := "Inf"
  duration := some (.ofInt 500)
  delay := some (.zero true)
  timing := none
  iterations := some (.count (.ofRatio false 5 2))
  direction := none
  fillMode := none
  playState := none

theorem numbers_of_parse_named : parse "Inf .5s -0s 2.5" = .ok namedInf ∧
    (Binary64.ofInt 500).IsAmount ∧ (Binary64.zero true).IsAmount ∧
    ¬SaysMinusNan "Inf .5s -0s 2.5" ∧ AnimationWord.ofWord "Inf".toList = .name "Inf" := by
  have hparse : parse "Inf .5s -0s 2.5" = .ok namedInf := by decide +kernel
  obtain ⟨htimes, hcount, -⟩ := numbers_of_parse hparse
  obtain ⟨-, hnan⟩ := hcount (.ofRatio false 5 2) rfl
  refine ⟨hparse, htimes _ (.inl rfl), htimes _ (.inr rfl), ?_, by decide +kernel⟩
  rw [← hnan]
  exact Binary64.ofRatio_ne_nan false 5 2

/-- The word for NaN with a minus is read as a number of iterations, so the animation runs a number
of times that is none. -/
theorem parse_counts_nan : ∃ a, parse "fade-in -nan" = .ok a ∧
    ∃ n, a.iterations = some (.count n) ∧ ¬n.IsAmount := by
  have hparse : parse "fade-in -nan" = .ok
      { name := "fade-in", duration := none, delay := none, timing := none,
        iterations := some (.count .nan), direction := none, fillMode := none,
        playState := none } := by decide +kernel
  exact ⟨_, hparse, .nan, rfl, fun h => h.1 rfl⟩

end Animation

end DocSite
