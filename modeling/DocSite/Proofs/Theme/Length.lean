import DocSite.Proofs.Text
import DocSite.Theme.Length

/-!
# What a length is made of

  A length is made of letters, digits, points and minus signs, with blanks around
  it that say nothing. So it can be put wherever none of these characters has a
  meaning of its own, between parentheses or in a declaration.
-/

namespace DocSite.Length

open DocSite.Text

/-- The characters that a length can be made of. -/
def isLengthChar (c : Char) : Bool := c.isAlphanum || c == '.' || c == '-'

theorem isLengthChar_of_isDigit {c : Char} (h : c.isDigit = true) : isLengthChar c = true := by
  simp [isLengthChar, Char.isAlphanum, h]

theorem chars_of_number? {negative : Bool} {cs rest : List Char} {value : Decimal}
    (h : number? negative cs = some (value, rest)) (hrest : ∀ c ∈ rest, isLengthChar c = true) :
    ∀ c ∈ cs, isLengthChar c = true := by
  unfold number? at h
  cases hwhole : cs.span Char.isDigit with
  | mk whole tail =>
    obtain ⟨rfl, hdigits, -⟩ := span_eq_iff.1 hwhole
    simp only [hwhole] at h
    -- Behind the digits stands a point with more digits, or nothing of the number.
    have htail : ∀ c ∈ tail, isLengthChar c = true := by
      split at h
      · rename_i fraction
        cases hfraction : fraction.span Char.isDigit with
        | mk digits after =>
          obtain ⟨rfl, hfractionDigits, -⟩ := span_eq_iff.1 hfraction
          simp only [hfraction] at h
          split at h
          · cases h
          · obtain ⟨-, rfl⟩ := Prod.mk.inj (Option.some.inj h)
            rw [List.forall_mem_cons, List.forall_mem_append]
            exact ⟨rfl, fun c hc => isLengthChar_of_isDigit (hfractionDigits c hc), hrest⟩
      · split at h
        · cases h
        · obtain ⟨-, rfl⟩ := Prod.mk.inj (Option.some.inj h)
          exact hrest
    rw [List.forall_mem_append]
    exact ⟨fun c hc => isLengthChar_of_isDigit (hdigits c hc), htail⟩

/-- A unit is read from its own text, or from nothing. -/
theorem eq_text_of_unit? {value : Decimal} {cs : List Char} {unit : LengthUnit}
    (h : unit? value cs = some unit) : cs = unit.text.toList ∨ cs = [] := by
  unfold unit? at h
  -- The units are tried one by one; the last try is the number without a unit.
  split at h
  · rename_i hcs
    obtain rfl := Option.some.inj h
    exact .inl hcs
  · split at h
    · rename_i hcs
      obtain rfl := Option.some.inj h
      exact .inl hcs
    · split at h
      · rename_i hcs
        obtain rfl := Option.some.inj h
        exact .inl hcs
      · split at h
        · rename_i hempty
          rw [Bool.and_eq_true, List.isEmpty_iff] at hempty
          exact .inr hempty.1
        · cases h

theorem chars_of_unit? {value : Decimal} {cs : List Char} {unit : LengthUnit}
    (h : unit? value cs = some unit) : ∀ c ∈ cs, isLengthChar c = true := by
  have htext (unit : LengthUnit) : unit.text.toList.all isLengthChar = true := by
    cases unit with
    | _ => decide +kernel
  rcases eq_text_of_unit? h with rfl | rfl
  · exact List.all_eq_true.1 (htext unit)
  · intro c hc
    cases hc

theorem chars_of_read? {cs : List Char} {length : Length} (h : read? cs = some length) :
    ∀ c ∈ cs, isLengthChar c = true := by
  unfold read? at h
  split at h
  · obtain ⟨⟨value, rest⟩, hnumber, h⟩ := Option.bind_eq_some_iff.1 h
    obtain ⟨unit, hunit, -⟩ := Option.bind_eq_some_iff.1 h
    rw [List.forall_mem_cons]
    exact ⟨rfl, chars_of_number? hnumber (chars_of_unit? hunit)⟩
  · obtain ⟨⟨value, rest⟩, hnumber, h⟩ := Option.bind_eq_some_iff.1 h
    obtain ⟨unit, hunit, -⟩ := Option.bind_eq_some_iff.1 h
    exact chars_of_number? hnumber (chars_of_unit? hunit)

theorem read?_of_parse {s : String} {length : Length} (h : parse s = .ok length) :
    read? (trimBoth s.toList) = some length := by
  unfold parse at h
  cases hread : read? (trimBoth s.toList) with
  | none => simp [hread] at h
  | some found =>
    simp only [hread] at h
    rw [Except.ok.inj h]

/-- Around a length there are blanks only. -/
theorem chars_of_parse {s : String} {length : Length} (h : parse s = .ok length) :
    ∀ c ∈ s.toList, isBlank c = true ∨ isLengthChar c = true := by
  obtain ⟨front, back, hfront, hback, hs⟩ := exists_trimBoth s.toList
  have hlength := chars_of_read? (read?_of_parse h)
  rw [hs]
  simp only [List.forall_mem_append]
  exact ⟨⟨fun c hc => .inl (hfront c hc), fun c hc => .inr (hlength c hc)⟩,
    fun c hc => .inl (hback c hc)⟩

/-- The blanks around a length can be taken off before it is read. -/
theorem parse_trim (s : String) : parse (trim s) = parse s := by
  unfold parse
  rw [toList_trim, trimBoth_trimBoth]

end DocSite.Length
