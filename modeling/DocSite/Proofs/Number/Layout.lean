import DocSite.Proofs.Number.Shortest
import DocSite.Proofs.Text

/-!
# The text of a double read back

  A document writes a finite double as digits around a point, at least one on
  both sides and no zero before another digit of the whole part. The digits are
  those of the shortest decimal, so they read back as the double.
-/

namespace DocSite

open DocSite.Binary64 DocSite.Numeral

/-! ## Digits around a point -/

/-- Digits that may stand before the point: one at least, and a zero only alone. -/
structure IsWholePart (ds : List Char) : Prop where
  digits : ∀ c ∈ ds, c.isDigit = true
  ne_nil : ds ≠ []
  zero : ds.head? = some '0' → ds = ['0']

/-- Digits that may stand behind the point. -/
structure IsFraction (ds : List Char) : Prop where
  digits : ∀ c ∈ ds, c.isDigit = true
  ne_nil : ds ≠ []

theorem isWholePart_zero : IsWholePart ['0'] := ⟨by simp, by simp, fun _ => rfl⟩

/-- The digits of a positive number do not begin with a zero. -/
theorem head_toDigits {n : Nat} (hn : 0 < n) : (Nat.toDigits 10 n).head? ≠ some '0' := by
  intro hhead
  obtain ⟨rest, hrest⟩ := List.head?_eq_some_iff.1 hhead
  -- Without the zero there are too few digits left for the number.
  obtain ⟨hleast, -⟩ := pow_length_toDigits hn
  have hvalue := natOfDigits_toDigits n
  have hdigits : ∀ c ∈ Nat.toDigits 10 n, c.isDigit = true :=
    fun c hc => Nat.isDigit_of_mem_toDigits (by decide) (by decide) hc
  rw [hrest] at hdigits hvalue hleast
  have hlt := natOfDigits_lt fun c hc => hdigits c (List.mem_cons_of_mem _ hc)
  have hsame : natOfDigits ('0' :: rest) = natOfDigits rest := by simp [natOfDigits]
  rw [List.length_cons, Nat.add_sub_cancel] at hleast
  omega

theorem isWholePart_of_head {ds : List Char} (hdigits : ∀ c ∈ ds, c.isDigit = true)
    (hne : ds ≠ []) (hhead : ds.head? ≠ some '0') : IsWholePart ds :=
  ⟨hdigits, hne, fun h => absurd h hhead⟩

/-- What a sign and digits around a point denote. -/
theorem parse?_point (negative : Bool) {ds fs : List Char} (hds : IsWholePart ds)
    (hfs : IsFraction fs) :
    Numeral.parse? ((if negative then ['-'] else []) ++ ds ++ '.' :: fs) =
      some (.decimal ⟨negative, natOfDigits (ds ++ fs), -(fs.length : Int)⟩) := by
  obtain ⟨d, rest, rfl⟩ := List.exists_cons_of_ne_nil hds.ne_nil
  have hd : d.isDigit = true := hds.digits d (by simp)
  have hsign : takeSign ((if negative then ['-'] else []) ++ (d :: rest) ++ '.' :: fs) =
      (negative, d :: rest ++ '.' :: fs) := by
    rw [List.append_assoc]
    exact takeSign_append negative (by simpa using hd)
  -- A point stands in none of the words.
  have hword : ∀ word : List Char, '.' ∉ word →
      (d :: rest ++ '.' :: fs).map Char.toLower ≠ word := by
    intro word hword heq
    exact hword (heq ▸ List.mem_map.2 ⟨'.', by simp, rfl⟩)
  have hspan : (d :: rest ++ '.' :: fs).span Char.isDigit = (d :: rest, '.' :: fs) :=
    Text.span_eq_iff.2 ⟨rfl, hds.digits, by simp⟩
  have hfraction : fs.span Char.isDigit = (fs, []) :=
    Text.span_eq_iff.2 ⟨by simp, hfs.digits, by simp⟩
  have hinf := hword "inf".toList (by decide)
  have hinfinity := hword "infinity".toList (by decide)
  have hnan := hword "nan".toList (by decide)
  -- What is not a word is read digit by digit.
  have hdecimal : readDecimal? negative (d :: rest ++ '.' :: fs) =
      some (.decimal ⟨negative, natOfDigits (d :: rest ++ fs), 0 - (fs.length : Int)⟩) := by
    unfold readDecimal?
    simp only [hspan, takeFraction, hfraction]
    rfl
  unfold Numeral.parse?
  simp only [hsign, hinf, hinfinity, hnan, decide_false, Bool.or_self, Bool.false_eq_true,
    if_false, hdecimal, Int.zero_sub]

/-! ## The positional layout -/

namespace Shortest

theorem isDigit_zeros {n : Nat} : ∀ c ∈ List.replicate n '0', c.isDigit = true := by
  intro c hc
  rw [List.eq_of_mem_replicate hc]
  rfl

/-- Digits that denote a number and begin with no zero. -/
structure IsNumeralOf (d : Nat) (digits : List Char) : Prop where
  isDigit : ∀ c ∈ digits, c.isDigit = true
  ne_nil : digits ≠ []
  head : digits.head? ≠ some '0'
  value : natOfDigits digits = d

theorem isNumeralOf_toDigits {d : Nat} (hd : 0 < d) : IsNumeralOf d (Nat.toDigits 10 d) where
  isDigit := fun _ hc => Nat.isDigit_of_mem_toDigits (by decide) (by decide) hc
  ne_nil := Nat.toDigits_ne_nil
  head := head_toDigits hd
  value := natOfDigits_toDigits d

/-- Digits around a point that denote `d * 10 ^ p`. -/
structure IsLayoutOf (d : Nat) (p : Int) (ds fs : List Char) : Prop where
  whole : IsWholePart ds
  fraction : IsFraction fs
  value : (natOfDigits (ds ++ fs) : ℚ) * 10 ^ (-(fs.length : Int)) = d * 10 ^ p

/-- The point only moves, so it is enough that the digits around it denote `d`. -/
theorem isLayoutOf_of_length {d : Nat} {p : Int} {ds fs : List Char} (hds : IsWholePart ds)
    (hfs : IsFraction fs) (hlength : (fs.length : Int) = -p) (hvalue : natOfDigits (ds ++ fs) = d) :
    IsLayoutOf d p ds fs := by
  refine ⟨hds, hfs, ?_⟩
  rw [hlength, neg_neg, hvalue]

section Layouts

variable {d : Nat} {p : Int} {digits : List Char}

/-- The zeros of a power stand before the point. -/
theorem IsNumeralOf.zeros_behind (h : IsNumeralOf d digits) (hp : 0 ≤ p) :
    IsLayoutOf d p (digits ++ List.replicate p.toNat '0') ['0'] := by
  refine ⟨isWholePart_of_head ?_ (by simp [h.ne_nil]) ?_, ⟨by simp, by simp⟩, ?_⟩
  · intro c hc
    rcases List.mem_append.1 hc with hc | hc
    · exact h.isDigit c hc
    · exact isDigit_zeros c hc
  · rw [List.head?_append_of_ne_nil _ h.ne_nil]
    exact h.head
  · have hpow : (10 : ℚ) ^ p = (10 ^ p.toNat : Nat) := by rw [ten_zpow_eq, if_pos hp]
    have hzero : natOfDigits ['0'] = 0 := rfl
    rw [hpow, natOfDigits_append, natOfDigits_append, h.value, natOfDigits_zeros, hzero,
      List.length_replicate, List.length_singleton, zpow_neg]
    push_cast
    field_simp
    ring

/-- The point stands between two digits. -/
theorem IsNumeralOf.point_between (h : IsNumeralOf d digits) {n : Nat} (hpos : 0 < n)
    (hlt : n < digits.length) (hp : (digits.length : Int) - n = -p) :
    IsLayoutOf d p (digits.take n) (digits.drop n) := by
  have hwhole : IsWholePart (digits.take n) := by
    refine isWholePart_of_head (fun c hc => h.isDigit c (List.mem_of_mem_take hc)) ?_ ?_
    · simp only [ne_eq, List.take_eq_nil_iff, h.ne_nil, or_false]
      omega
    · rw [List.head?_take, if_neg (by omega)]
      exact h.head
  have hfraction : IsFraction (digits.drop n) := by
    refine ⟨fun c hc => h.isDigit c (List.mem_of_mem_drop hc), ?_⟩
    simp only [ne_eq, List.drop_eq_nil_iff]
    omega
  refine isLayoutOf_of_length hwhole hfraction ?_ ?_
  · rw [List.length_drop]
    omega
  · rw [List.take_append_drop, h.value]

/-- Zeros stand between the point and the digits. -/
theorem IsNumeralOf.zeros_front (h : IsNumeralOf d digits) {n : Nat}
    (hp : (n : Int) + digits.length = -p) :
    IsLayoutOf d p ['0'] (List.replicate n '0' ++ digits) := by
  have hfraction : IsFraction (List.replicate n '0' ++ digits) := by
    refine ⟨?_, by simp [h.ne_nil]⟩
    intro c hc
    rcases List.mem_append.1 hc with hc | hc
    · exact isDigit_zeros c hc
    · exact h.isDigit c hc
  refine isLayoutOf_of_length isWholePart_zero hfraction ?_ ?_
  · rw [List.length_append, List.length_replicate]
    omega
  · have hzero : natOfDigits ['0'] = 0 := rfl
    rw [natOfDigits_append, natOfDigits_append, hzero, natOfDigits_zeros, h.value]
    omega

end Layouts

/-- The positional layout of a decimal, with a zero behind the point of an integer, is a number of
digits around a point that denotes the decimal. -/
theorem positional_point {d : Nat} (hd : 0 < d) (p : Int) :
    ∃ ds fs, IsLayoutOf d p ds fs ∧
      (positional d p ++ if 0 ≤ p then ".0" else "").toList = ds ++ '.' :: fs := by
  have hnumeral := isNumeralOf_toDigits hd
  -- All that matters of the digits is that they are those of a number.
  unfold positional
  generalize Nat.toDigits 10 d = digits at *
  simp only
  by_cases hp : 0 ≤ p
  · exact ⟨_, _, hnumeral.zeros_behind hp, by simp [hp, zeros]⟩
  · by_cases hwhole : 0 < (digits.length : Int) + p
    · refine ⟨_, _, hnumeral.point_between (n := ((digits.length : Int) + p).toNat)
        (by omega) (by omega) (by omega), ?_⟩
      simp [hp, hwhole]
    · refine ⟨_, _, hnumeral.zeros_front (n := (-((digits.length : Int) + p)).toNat)
        (by omega), ?_⟩
      simp [hp, hwhole, zeros]

end Shortest

namespace Binary64

open Shortest

/-- The text of a finite value in a document is digits around a point, and reads back. -/
theorem tomlText_finite (negative : Bool) {m : Nat} {e : Int} (hfits : Fits m e) :
    ∃ ds fs, IsWholePart ds ∧ IsFraction fs ∧
      (Binary64.finite negative m e).tomlText.toList =
        (if negative then ['-'] else []) ++ ds ++ '.' :: fs ∧
      parse? ((if negative then ['-'] else []) ++ ds ++ '.' :: fs) =
        some (.finite negative m e) := by
  -- The sign is the same in the text and in what is read.
  have hsign : (signText negative).toList = if negative then ['-'] else [] := by
    cases negative <;> rfl
  rcases Nat.eq_zero_or_pos m with rfl | hm
  · -- Zero has the least exponent.
    have he : e = minExponent := by
      rcases hfits.normal with h | h
      · simp [leastNormal] at h
      · exact h
    subst he
    have hinteger : (Binary64.finite negative 0 minExponent).isInteger = true := by
      simp [isInteger]
    refine ⟨['0'], ['0'], isWholePart_zero, ⟨by simp, by simp⟩, ?_, ?_⟩
    · simp [tomlText, hinteger, text, hsign]
    · rw [parse?, parse?_point negative isWholePart_zero ⟨by simp, by simp⟩]
      rfl
  · obtain ⟨hrounds, hinteger⟩ := digitsOf_spec hm hfits .up
    rw [← isInteger_iff negative] at hinteger
    -- A number that rounds to a positive value has a digit.
    have hd : 0 < (digitsOf .up m e).1 := by
      rcases Nat.eq_zero_or_pos (digitsOf .up m e).1 with hzero | hpos
      · have hpositive := hrounds.pos hm
        simp [hzero] at hpositive
      · exact hpos
    obtain ⟨ds, fs, hlayout, htext⟩ := positional_point hd (digitsOf .up m e).2
    refine ⟨ds, fs, hlayout.whole, hlayout.fraction, ?_, ?_⟩
    · rw [List.append_assoc, ← htext, ← hsign, ← String.toList_append]
      congr 1
      unfold tomlText text
      simp only [if_neg hm.ne']
      by_cases hp : 0 ≤ (digitsOf .up m e).2
      · rw [if_pos hp, if_pos (hinteger.1 hp), String.append_assoc]
      · rw [if_neg hp, if_neg (fun h => hp (hinteger.2 h)), String.append_empty]
    · rw [parse?, parse?_point negative hlayout.whole hlayout.fraction]
      simp only [Option.map_some, ofNumeral]
      rw [ofDecimal_of_roundsTo hm hfits]
      simp only [hlayout.value]
      exact hrounds

end Binary64

/-! ## The characters of a number -/

namespace Shortest

/-- A character of a number that is not written with an exponent. -/
def IsPlainMark (c : Char) : Prop := c.isAlphanum = true ∨ c = '-' ∨ c = '.'

instance (c : Char) : Decidable (IsPlainMark c) := inferInstanceAs (Decidable (_ ∨ _))

theorem isPlainMark_toDigits {n : Nat} : ∀ c ∈ Nat.toDigits 10 n, IsPlainMark c := by
  intro c hc
  have hdigit : c.isDigit = true := Nat.isDigit_of_mem_toDigits (by decide) (by decide) hc
  exact .inl (by simp [Char.isAlphanum, hdigit])

theorem isPlainMark_zeros (n : Nat) : ∀ c ∈ (zeros n).toList, IsPlainMark c := by
  intro c hc
  rw [zeros, String.toList_ofList] at hc
  rw [List.eq_of_mem_replicate hc]
  exact .inl rfl

/-- A decimal is written with digits and a point. -/
theorem isPlainMark_positional (d : Nat) (p : Int) :
    ∀ c ∈ (positional d p).toList, IsPlainMark c := by
  intro c hc
  have hdigits : ∀ c ∈ Nat.toDigits 10 d, IsPlainMark c := isPlainMark_toDigits
  have hpoint : IsPlainMark '.' := .inr (.inr rfl)
  have hzero : IsPlainMark '0' := .inl rfl
  -- The layouts are zeros behind the digits, a point among them, and zeros in front of them.
  unfold positional at hc
  simp only at hc
  split at hc
  · simp only [String.toList_append, String.toList_ofList, List.mem_append] at hc
    rcases hc with hc | hc
    · exact hdigits c hc
    · exact isPlainMark_zeros _ c hc
  · split at hc
    · simp only [String.toList_append, String.toList_ofList, List.mem_append] at hc
      rcases hc with (hc | hc) | hc
      · exact hdigits c (List.mem_of_mem_take hc)
      · obtain rfl : c = '.' := by simpa using hc
        exact hpoint
      · exact hdigits c (List.mem_of_mem_drop hc)
    · simp only [String.toList_append, String.toList_ofList, List.mem_append] at hc
      rcases hc with (hc | hc) | hc
      · rcases (by simpa using hc : c = '0' ∨ c = '.') with rfl | rfl
        · exact hzero
        · exact hpoint
      · exact isPlainMark_zeros _ c hc
      · exact hdigits c hc

theorem isPlainMark_signText (negative : Bool) : ∀ c ∈ (signText negative).toList, IsPlainMark c := by
  cases negative with
  | false => simp [signText]
  | true => exact fun c hc => .inr (.inl (by simpa [signText] using hc))

end Shortest

namespace Binary64

open Shortest

/-- The text of a double is made of letters, digits, a sign and a point. -/
theorem isPlainMark_text (x : Binary64) : ∀ c ∈ x.text.toList, IsPlainMark c := by
  intro c hc
  unfold text at hc
  cases x with
  | nan =>
    have hnan : ∀ c ∈ "NaN".toList, IsPlainMark c := by
      intro c hc
      have hall : "NaN".toList.all Char.isAlphanum = true := rfl
      exact .inl (List.all_eq_true.1 hall c hc)
    exact hnan c hc
  | infinite negative =>
    simp only [String.toList_append, List.mem_append] at hc
    rcases hc with hc | hc
    · exact isPlainMark_signText _ c hc
    · have hall : "inf".toList.all Char.isAlphanum = true := rfl
      exact .inl (List.all_eq_true.1 hall c hc)
  | finite negative m e =>
    simp only at hc
    -- Only zero and the digits behind a sign are left.
    split at hc
    · simp only [String.toList_append, List.mem_append] at hc
      rcases hc with hc | hc
      · exact isPlainMark_signText _ c hc
      · obtain rfl : c = '0' := by simpa using hc
        exact .inl rfl
    · simp only [String.toList_append, List.mem_append] at hc
      rcases hc with hc | hc
      · exact isPlainMark_signText _ c hc
      · exact isPlainMark_positional _ _ c hc

end Binary64

end DocSite
