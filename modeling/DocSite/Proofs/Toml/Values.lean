import DocSite.Proofs.Number.Layout
import DocSite.Proofs.Toml.Strings
import DocSite.Toml.Reader

/-!
# Values read back

  The values that stand on one line: texts, numbers, booleans, and arrays of
  these. Numbers and booleans are words, told apart by their characters: a number
  is no date, since no hyphen and no colon stands inside it, and no float without
  a point.
-/

namespace DocSite.Toml

open DocSite.Text Scanner Numeral

/-! ## Numbers -/

theorem digits?_of_digits {ds : List Char} (h : ∀ c ∈ ds, c.isDigit = true) (hne : ds ≠ []) :
    digits? Char.isDigit ds = some ds := by
  induction ds with
  | nil => exact absurd rfl hne
  | cons d ds ih =>
    have hd := h d (by simp)
    cases ds with
    | nil => simp [digits?, hd]
    | cons e ds =>
      have he := h e (by simp)
      have hrest := ih (fun c hc => h c (List.mem_cons_of_mem _ hc)) (by simp)
      have hunderscore : e ≠ '_' := by
        rintro rfl
        simp at he
      simp [digits?, hd, hrest, hunderscore]

theorem wholeDigits?_of_isWholePart {ds : List Char} (h : IsWholePart ds) :
    wholeDigits? ds = some ds := by
  rw [wholeDigits?, digits?_of_digits h.digits h.ne_nil]
  simp only [Option.bind_eq_bind, Option.bind_some]
  split
  · rename_i heq
    have hzero := h.zero rfl
    simp at hzero
  · rfl

/-- The digits of a number are a whole part. -/
theorem isWholePart_toDigits (n : Nat) : IsWholePart (Nat.toDigits 10 n) := by
  rcases Nat.eq_zero_or_pos n with rfl | hn
  · exact isWholePart_zero
  · exact isWholePart_of_head (fun c hc => Nat.isDigit_of_mem_toDigits (by decide) (by decide) hc)
      Nat.toDigits_ne_nil (head_toDigits hn)

/-- A field of a date is so many characters at the front. -/
theorem eq_drop_of_field? {count low high n : Nat} {cs rest : List Char}
    (h : field? count low high cs = some (n, rest)) : rest = cs.drop count := by
  unfold field? at h
  simp only [Option.ite_none_right_eq_some, Option.some.injEq, Prod.mk.injEq] at h
  exact h.2.2.symm

theorem mem_of_mark? {c : Char} {cs rest : List Char} (h : mark? c cs = some rest) : c ∈ cs := by
  cases cs with
  | nil => simp [mark?] at h
  | cons x cs =>
    simp only [mark?, Option.ite_none_right_eq_some, beq_iff_eq] at h
    simp [h.1]

/-- A word without hyphens and colons behind its first character is no date and no time. -/
theorem datetime?_eq_none {w : List Char} (h : ∀ c ∈ w.drop 1, c ≠ '-' ∧ c ≠ ':') :
    datetime? w = none := by
  -- The marks stand behind the year and behind the hour.
  have hdrop : ∀ n, 1 ≤ n → ∀ c ∈ w.drop n, c ≠ '-' ∧ c ≠ ':' := by
    intro n hn c hc
    refine h c (List.mem_of_mem_drop (i := n - 1) ?_)
    rwa [List.drop_drop, show 1 + (n - 1) = n by omega]
  have hdate : date? w = none := by
    by_contra hread
    obtain ⟨x, hx⟩ := Option.ne_none_iff_exists'.1 hread
    obtain ⟨⟨year, rest⟩, hyear, hx⟩ := Option.bind_eq_some_iff.1 hx
    obtain ⟨after, hmark, -⟩ := Option.bind_eq_some_iff.1 hx
    obtain rfl := eq_drop_of_field? hyear
    exact absurd rfl (hdrop 4 (by omega) '-' (mem_of_mark? hmark)).1
  have htime : time? w = none := by
    by_contra hread
    obtain ⟨x, hx⟩ := Option.ne_none_iff_exists'.1 hread
    obtain ⟨⟨hour, rest⟩, hhour, hx⟩ := Option.bind_eq_some_iff.1 hx
    obtain ⟨after, hmark, -⟩ := Option.bind_eq_some_iff.1 hx
    obtain rfl := eq_drop_of_field? hhour
    exact absurd rfl (hdrop 2 (by omega) ':' (mem_of_mark? hmark)).2
  simp [datetime?, hdate, htime]

/-- A word of digits behind a sign, with what follows them, is a number and nothing else. -/
structure NumberWord (negative : Bool) (ds tail w : List Char) : Prop where
  eq : w = (if negative then ['-'] else []) ++ (ds ++ tail)
  whole : IsWholePart ds
  tail : ∀ c ∈ tail, c.isDigit = true ∨ c = '.'

namespace NumberWord

variable {negative : Bool} {ds tail w : List Char} (h : NumberWord negative ds tail w)

include h

theorem chars : ∀ c ∈ ds ++ tail, c.isDigit = true ∨ c = '.' := by
  intro c hc
  rcases List.mem_append.1 hc with hc | hc
  · exact .inl (h.whole.digits c hc)
  · exact h.tail c hc

theorem takeSign_eq : takeSign w = (negative, ds ++ tail) := by
  rw [h.eq]
  refine takeSign_append negative fun c hc => ?_
  rw [List.head?_append_of_ne_nil _ h.whole.ne_nil] at hc
  exact h.whole.digits c (List.mem_of_mem_head? hc)

theorem ne_word {word : List Char} {x : Char} (hx : x ∈ word) (hdigit : x.isDigit = false)
    (hpoint : x ≠ '.') : ds ++ tail ≠ word := by
  rintro rfl
  rcases h.chars x hx with hc | hc
  · simp [hdigit] at hc
  · exact hpoint hc

theorem ne_signed {word : List Char} {x : Char} (hx : x ∈ word) (hdigit : x.isDigit = false)
    (hpoint : x ≠ '.') (hminus : x ≠ '-') : w ≠ word := by
  rintro rfl
  rw [h.eq] at hx
  rcases List.mem_append.1 hx with hx | hx
  · cases negative with
    | true => exact hminus (by simpa using hx)
    | false => simp at hx
  · exact h.ne_word hx hdigit hpoint rfl

theorem datetime?_none : datetime? w = none := by
  refine datetime?_eq_none fun c hc => ?_
  have hmem : c ∈ ds ++ tail := by
    rw [h.eq] at hc
    cases negative with
    | true => exact hc
    | false => exact List.mem_of_mem_drop hc
  constructor
  · rintro rfl
    exact h.ne_word hmem (by decide) (by decide) rfl
  · rintro rfl
    exact h.ne_word hmem (by decide) (by decide) rfl

/-- A number is read as a float if it can be, and else as an integer. -/
theorem scalarWord?_eq : scalarWord? w = (float? w).orElse fun _ => integer? w := by
  have htrue : w ≠ "true".toList := h.ne_signed (x := 't') (by simp) rfl (by decide) (by decide)
  have hfalse : w ≠ "false".toList := h.ne_signed (x := 'f') (by simp) rfl (by decide) (by decide)
  rw [scalarWord?, if_neg htrue, if_neg hfalse, h.datetime?_none]
  rfl

theorem ne_nil : w ≠ [] := by
  rw [h.eq]
  simp [h.whole.ne_nil]

theorem isWordChar_of_mem : ∀ c ∈ w, isWordChar c = true := by
  intro c hc
  rw [h.eq] at hc
  have hminus : ∀ x ∈ (if negative then ['-'] else []), isWordChar x = true := by
    cases negative <;> simp [isWordChar]
  rcases List.mem_append.1 hc with hc | hc
  · exact hminus c hc
  · rcases h.chars c hc with hc | rfl
    · simp [isWordChar, Char.isAlphanum, hc]
    · rfl

end NumberWord

/-- The text of an integer is its digits behind its sign. -/
theorem numberWord_toString (n : Int) :
    NumberWord (decide (n < 0)) (Nat.toDigits 10 n.natAbs) [] (toString n).toList := by
  have hdigits : ∀ m : Nat, (toString m).toList = Nat.toDigits 10 m := by
    intro m
    rw [Nat.toString_eq_ofList_toDigits, String.toList_ofList]
  refine ⟨?_, isWholePart_toDigits _, by simp⟩
  rw [List.append_nil]
  cases n with
  | ofNat m =>
    have htext : toString (Int.ofNat m) = toString m := rfl
    rw [htext, if_neg (by simp), hdigits]
    rfl
  | negSucc m =>
    have htext : toString (Int.negSucc m) = "-" ++ toString (m + 1) := rfl
    rw [htext, if_pos (by simp), String.toList_append, hdigits]
    rfl

/-- An integer reads back from its text. -/
theorem scalarWord?_integer {n : Int}
    (hrange : -0x8000000000000000 ≤ n ∧ n < 0x8000000000000000) :
    scalarWord? (toString n).toList = some (.integer n) := by
  have hnumber := numberWord_toString n
  generalize (toString n).toList = w at hnumber
  have hwhole := hnumber.whole
  have hsign := hnumber.takeSign_eq
  rw [List.append_nil] at hsign
  -- The digits are none of the words for infinity and NaN.
  have hwords : ∀ x, x.isDigit = false → x ≠ '.' → x ∉ Nat.toDigits 10 n.natAbs := by
    intro x hx hpoint hmem
    exact hnumber.ne_word (by rwa [List.append_nil]) hx hpoint rfl
  have hdigits : ∀ c ∈ Nat.toDigits 10 n.natAbs, (c.isDigit || c == '_') = true := by
    intro c hc
    simp [hwhole.digits c hc]
  have hspan : (Nat.toDigits 10 n.natAbs).span (fun c => c.isDigit || c == '_') =
      (Nat.toDigits 10 n.natAbs, []) := span_eq_iff.2 ⟨by simp, hdigits, by simp⟩
  -- Nothing follows the digits, so the word is no float.
  have hfloat : float? w = none := by
    have hinf : Nat.toDigits 10 n.natAbs ≠ "inf".toList := fun heq =>
      hwords 'i' rfl (by decide) (by simp [heq])
    have hnan : Nat.toDigits 10 n.natAbs ≠ "nan".toList := fun heq =>
      hwords 'n' rfl (by decide) (by simp [heq])
    simp only [float?, hsign, if_neg hinf, if_neg hnan, hspan, wholeDigits?_of_isWholePart hwhole]
    rfl
  have hvalue : (if decide (n < 0) = true then -((natOfDigits (Nat.toDigits 10 n.natAbs) : Nat) : Int)
      else (natOfDigits (Nat.toDigits 10 n.natAbs) : Nat)) = n := by
    rw [natOfDigits_toDigits]
    split
    · rename_i hneg
      have : n < 0 := of_decide_eq_true hneg
      omega
    · rename_i hneg
      have : ¬ n < 0 := fun hlt => hneg (decide_eq_true hlt)
      omega
  have hinteger : integer? w = some (.integer n) := by
    -- A leading zero with a letter would be another base, which no decimal text has.
    unfold integer?
    split
    · exact absurd rfl (hnumber.ne_signed (x := 'x') (by simp) rfl (by decide) (by decide))
    · exact absurd rfl (hnumber.ne_signed (x := 'o') (by simp) rfl (by decide) (by decide))
    · exact absurd rfl (hnumber.ne_signed (x := 'b') (by simp) rfl (by decide) (by decide))
    · simp only [hsign, wholeDigits?_of_isWholePart hwhole, Option.bind_eq_bind, Option.bind_some]
      rw [hvalue, ranged?, if_pos (by simpa using hrange)]
  rw [hnumber.scalarWord?_eq, hfloat, hinteger]
  rfl

/-- A finite double reads back from its text. -/
theorem scalarWord?_finite (negative : Bool) {m : Nat} {e : Int} (hfits : Binary64.Fits m e) :
    ∃ ds tail, NumberWord negative ds tail (Binary64.finite negative m e).tomlText.toList ∧
      scalarWord? (Binary64.finite negative m e).tomlText.toList =
        some (.float (.finite negative m e)) := by
  obtain ⟨ds, fs, hds, hfs, htext, hread⟩ := Binary64.tomlText_finite negative hfits
  generalize (Binary64.finite negative m e).tomlText.toList = w at htext
  -- The point and the digits behind it go on with the number.
  have hnumber : NumberWord negative ds ('.' :: fs) w := by
    refine ⟨by rw [htext, List.append_assoc], hds, ?_⟩
    intro c hc
    rcases List.mem_cons.1 hc with rfl | hc
    · exact .inr rfl
    · exact .inl (hfs.digits c hc)
  have hwhole : (ds ++ '.' :: fs).span (fun c => c.isDigit || c == '_') = (ds, '.' :: fs) :=
    span_eq_iff.2 ⟨rfl, fun c hc => by simp [hds.digits c hc], by simp⟩
  have hfraction : fs.span (fun c => c.isDigit || c == '_') = (fs, []) :=
    span_eq_iff.2 ⟨by simp, fun c hc => by simp [hfs.digits c hc], by simp⟩
  have htail : floatTail? ('.' :: fs) = some ('.' :: fs) := by
    simp only [floatTail?, hfraction, digits?_of_digits hfs.digits hfs.ne_nil, exponentPart?,
      Option.bind_eq_bind, Option.bind_some, List.append_nil]
  have hinf : ds ++ '.' :: fs ≠ "inf".toList :=
    hnumber.ne_word (x := 'i') (by simp) rfl (by decide)
  have hnan : ds ++ '.' :: fs ≠ "nan".toList :=
    hnumber.ne_word (x := 'n') (by simp) rfl (by decide)
  have hfloat : float? w = some (.float (.finite negative m e)) := by
    simp only [float?, hnumber.takeSign_eq, if_neg hinf, if_neg hnan, hwhole,
      wholeDigits?_of_isWholePart hds, htail, hread, Option.bind_eq_bind, Option.bind_some]
    rw [if_neg (by simp)]
  refine ⟨ds, '.' :: fs, hnumber, ?_⟩
  rw [hnumber.scalarWord?_eq, hfloat]
  rfl

/-! ## Words -/

/-- A text behind which a value has ended. -/
def EndsValue (rest : List Char) : Prop := ∀ c ∈ rest.head?, c = ',' ∨ c = ']' ∨ c = '\n'

theorem word_append {w rest : List Char} (hw : ∀ c ∈ w, isWordChar c = true)
    (hrest : EndsValue rest) : word (w ++ rest) = (w, rest) := by
  have hstop : ∀ c ∈ rest.head?, isWordChar c = false := by
    intro c hc
    rcases hrest c hc with rfl | rfl | rfl <;> rfl
  have hspan : (w ++ rest).span isWordChar = (w, rest) := span_eq_iff.2 ⟨rfl, hw, hstop⟩
  unfold word
  simp only [hspan]
  split
  · -- No blank follows that could join a date with a time.
    have hspace := hrest ' ' rfl
    simp at hspace
  · rfl

/-- A character with which a value on a line may begin. -/
def StartsValue (c : Char) : Prop := isWordChar c = true ∨ c = '"' ∨ c = '\''

/-- What begins a value neither ends an array nor begins one, and is no blank. -/
theorem StartsValue.ne {c : Char} (h : StartsValue c) :
    isSpace c = false ∧ c ≠ '\n' ∧ c ≠ '\r' ∧ c ≠ '#' ∧ c ≠ '[' ∧ c ≠ ']' ∧ c ≠ '\x7b' := by
  have hname : ∀ x, isWordChar x = false → x ≠ '"' → x ≠ '\'' → c ≠ x := by
    rintro x hx hquote hliteral rfl
    rcases h with h | h | h
    · simp [hx] at h
    · exact hquote h
    · exact hliteral h
  have hspace := hname ' ' rfl (by decide) (by decide)
  have htab := hname '\t' rfl (by decide) (by decide)
  refine ⟨by simp [isSpace, hspace, htab], ?_, ?_, ?_, ?_, ?_, ?_⟩
  all_goals exact hname _ rfl (by decide) (by decide)

theorem value?_word {w rest : List Char} {v : Value} (depth : Nat) (hne : w ≠ [])
    (hw : ∀ c ∈ w, isWordChar c = true) (hv : scalarWord? w = some v) (hrest : EndsValue rest) :
    value? depth (w ++ rest) = some (v, rest) := by
  have hword := word_append hw hrest
  obtain ⟨c, w, rfl⟩ := List.exists_cons_of_ne_nil hne
  have hc : isWordChar c = true := hw c (by simp)
  have hstart : StartsValue c := .inl hc
  have hquote : c ≠ '"' := by
    rintro rfl
    simp [isWordChar] at hc
  have hliteral : c ≠ '\'' := by
    rintro rfl
    simp [isWordChar] at hc
  -- No other value begins as a word does.
  obtain ⟨-, -, -, -, hopen, -, hbrace⟩ := hstart.ne
  rw [List.cons_append] at hword ⊢
  unfold value?
  split
  all_goals first
    | (rename_i heq
       exact absurd (List.cons.inj heq).1 ‹_›)
    | (simp only [hword, hv]
       rfl)

theorem value?_stringText (depth : Nat) (s : String) {rest : List Char} (hrest : EndsValue rest) :
    value? depth ((stringText s).toList ++ rest) = some (.string s, rest) := by
  have hstring : string? ((stringText s).toList ++ rest) = some (s, rest) := by
    refine string?_stringText s fun c hc => ?_
    rcases hrest c hc with rfl | rfl | rfl <;> decide
  obtain ⟨c, tail, htext, hc⟩ := exists_stringText s
  rw [htext, List.cons_append] at hstring ⊢
  rcases hc with rfl | rfl
  · cases depth <;> simp [value?, hstring]
  · cases depth <;> simp [value?, hstring]

/-! ## Values on a line -/

/-- A value that is one token and has a text to read back from. -/
def Value.IsScalar : Value → Prop
  | .string _ => True
  | .integer n => -0x8000000000000000 ≤ n ∧ n < 0x8000000000000000
  | .float x => x.IsDouble
  | .boolean _ => True
  | _ => False

/-- A value that stands on the line of its key: a scalar or an array of scalars. -/
def Value.IsLine : Value → Prop
  | .array items => ∀ v ∈ items, v.IsScalar
  | v => v.IsScalar

/-- A word that is read as a value. -/
structure ReadsWord (w : List Char) (v : Value) : Prop where
  ne_nil : w ≠ []
  chars : ∀ c ∈ w, isWordChar c = true
  reads : scalarWord? w = some v

/-- The text of a number or a boolean is a word that is read as it. -/
theorem readsWord_text {v : Value} (h : v.IsScalar) (hstring : ∀ s, v ≠ .string s) :
    ReadsWord v.text.toList v := by
  have hwords : ∀ w : List Char, w.all isWordChar = true → ∀ c ∈ w, isWordChar c = true := by
    intro w hw
    simpa using hw
  cases v with
  | string s => exact absurd rfl (hstring s)
  | integer n =>
    have hnumber := numberWord_toString n
    exact ⟨hnumber.ne_nil, hnumber.isWordChar_of_mem, scalarWord?_integer h⟩
  | float x =>
    cases x with
    | nan => exact ⟨by decide, hwords _ (by decide), rfl⟩
    | infinite negative =>
      cases negative with
      | true => exact ⟨by decide, hwords _ (by decide), rfl⟩
      | false => exact ⟨by decide, hwords _ (by decide), rfl⟩
    | finite negative m e =>
      obtain ⟨ds, tail, hnumber, hread⟩ := scalarWord?_finite negative h
      exact ⟨hnumber.ne_nil, hnumber.isWordChar_of_mem, hread⟩
  | boolean b =>
    cases b with
    | true => exact ⟨by decide, hwords _ (by decide), rfl⟩
    | false => exact ⟨by decide, hwords _ (by decide), rfl⟩
  | datetime text => exact absurd h (by simp [Value.IsScalar])
  | array items => exact absurd h (by simp [Value.IsScalar])
  | table entries => exact absurd h (by simp [Value.IsScalar])

/-- A scalar reads back from its text. -/
theorem value?_scalar (depth : Nat) {v : Value} (h : v.IsScalar) {rest : List Char}
    (hrest : EndsValue rest) : value? depth (v.text.toList ++ rest) = some (v, rest) := by
  by_cases hstring : ∃ s, v = .string s
  · obtain ⟨s, rfl⟩ := hstring
    exact value?_stringText depth s hrest
  · have hword := readsWord_text h fun s hs => hstring ⟨s, hs⟩
    exact value?_word depth hword.ne_nil hword.chars hword.reads hrest

theorem exists_text_scalar {v : Value} (h : v.IsScalar) :
    ∃ c tail, v.text.toList = c :: tail ∧ StartsValue c := by
  by_cases hstring : ∃ s, v = .string s
  · obtain ⟨s, rfl⟩ := hstring
    obtain ⟨c, tail, htext, hc⟩ := exists_stringText s
    exact ⟨c, tail, htext, .inr hc⟩
  · have hword := readsWord_text h fun s hs => hstring ⟨s, hs⟩
    obtain ⟨c, tail, htext⟩ := List.exists_cons_of_ne_nil hword.ne_nil
    exact ⟨c, tail, htext, .inl (hword.chars c (by simp [htext]))⟩

/-! ## Arrays -/

theorem skipTrivia_of_start {c : Char} (cs : List Char) (hspace : isSpace c = false) (hfeed : c ≠ '\n')
    (hreturn : c ≠ '\r') (hcomment : c ≠ '#') : skipTrivia false (c :: cs) = c :: cs := by
  unfold skipTrivia
  split
  · rename_i heq
    simp at heq
  · rename_i heq
    exact absurd (List.cons.inj heq).1 hreturn
  · rename_i heq
    obtain ⟨rfl, rfl⟩ := List.cons.inj heq
    simp [hfeed, hspace, hcomment]

/-- The items of an array read back, also behind a blank. -/
theorem arrayItems?_textItems (depth : Nat) {items : List Value} (h : ∀ v ∈ items, v.IsScalar)
    {rest : List Char} {room : Nat} (hroom : items.length < room) :
    arrayItems? (value? depth) room ((textItems items).toList ++ ']' :: rest) =
      some (items, rest) := by
  -- Nothing is skipped in front of a bracket or a comma.
  have hclose : ∀ after, skipTrivia false (']' :: after) = ']' :: after := fun after =>
    skipTrivia_of_start after (by decide) (by decide) (by decide) (by decide)
  have hcomma : ∀ after, skipTrivia false (',' :: after) = ',' :: after := fun after =>
    skipTrivia_of_start after (by decide) (by decide) (by decide) (by decide)
  have hblank : ∀ room after, arrayItems? (value? depth) room (' ' :: after) =
      arrayItems? (value? depth) room after := by
    intro room after
    cases room with
    | zero => rfl
    | succ room => rw [arrayItems?, arrayItems?]; rfl
  induction items generalizing room with
  | nil =>
    obtain ⟨room, rfl⟩ := Nat.exists_eq_add_one_of_ne_zero (Nat.ne_of_gt (Nat.zero_lt_of_lt hroom))
    simp [textItems, arrayItems?, hclose]
  | cons v items ih =>
    obtain ⟨room, rfl⟩ := Nat.exists_eq_add_one_of_ne_zero (Nat.ne_of_gt (Nat.zero_lt_of_lt hroom))
    have hv := h v (by simp)
    obtain ⟨c, tail, htext, hc⟩ := exists_text_scalar hv
    obtain ⟨hspace, hfeed, hreturn, hcomment, -, hne, -⟩ := hc.ne
    have hstart : ∀ after, skipTrivia false (v.text.toList ++ after) = v.text.toList ++ after := by
      intro after
      rw [htext, List.cons_append]
      exact skipTrivia_of_start _ hspace hfeed hreturn hcomment
    have hopen : ∀ after t, v.text.toList ++ after ≠ ']' :: t := by
      intro after t heq
      rw [htext, List.cons_append] at heq
      exact hne (List.cons.inj heq).1
    -- Behind the last item comes the bracket, behind any other a comma and a blank.
    cases items with
    | nil =>
      have hends : EndsValue (']' :: rest) := by simp [EndsValue]
      have hitem := value?_scalar depth hv hends
      simp only [textItems, arrayItems?, hstart]
      split
      · rename_i heq
        exact absurd heq (hopen _ _)
      · simp only [hitem, Option.bind_eq_bind, Option.bind_some, hclose]
    | cons next items =>
      have hmore : arrayItems? (value? depth) room
          ((textItems (next :: items)).toList ++ ']' :: rest) = some (next :: items, rest) :=
        ih (fun x hx => h x (List.mem_cons_of_mem _ hx)) (by simpa using hroom)
      have hitems : (textItems (v :: next :: items)).toList ++ ']' :: rest =
          v.text.toList ++ ',' :: ' ' :: ((textItems (next :: items)).toList ++ ']' :: rest) := by
        simp [textItems]
      have hends : EndsValue
          (',' :: ' ' :: ((textItems (next :: items)).toList ++ ']' :: rest)) := by
        simp [EndsValue]
      have hitem := value?_scalar depth hv hends
      rw [hitems, arrayItems?, hstart]
      split
      · rename_i heq
        exact absurd heq (hopen _ _)
      · simp only [hitem, Option.bind_eq_bind, Option.bind_some, hcomma, hblank, hmore]

theorem length_textItems {items : List Value} (h : ∀ v ∈ items, v.IsScalar) :
    items.length ≤ (textItems items).toList.length := by
  induction items with
  | nil => simp
  | cons v items ih =>
    obtain ⟨c, tail, htext, -⟩ := exists_text_scalar (h v (by simp))
    cases items with
    | nil => simp [textItems, htext]
    | cons next items =>
      have hmore := ih fun x hx => h x (List.mem_cons_of_mem _ hx)
      simp only [textItems, String.toList_append, List.length_append, htext, List.length_cons]
        at hmore ⊢
      omega

theorem exists_items_of_isLine {v : Value} (h : v.IsLine) (hscalar : ¬ v.IsScalar) :
    ∃ items, v = .array items ∧ ∀ x ∈ items, x.IsScalar := by
  cases v with
  | array items => exact ⟨items, rfl, h⟩
  | string s => exact absurd h hscalar
  | integer n => exact absurd h hscalar
  | float x => exact absurd h hscalar
  | boolean b => exact absurd h hscalar
  | datetime text => exact absurd h hscalar
  | table entries => exact absurd h hscalar

/-- A value on a line reads back from its text. -/
theorem value?_line (depth : Nat) {v : Value} (h : v.IsLine) {rest : List Char}
    (hrest : EndsValue rest) : value? (depth + 1) (v.text.toList ++ rest) = some (v, rest) := by
  by_cases hscalar : v.IsScalar
  · exact value?_scalar (depth + 1) hscalar hrest
  · obtain ⟨items, rfl, hitems⟩ := exists_items_of_isLine h hscalar
    have hlength := length_textItems hitems
    have htext : (Value.array items).text.toList ++ rest =
        '[' :: ((textItems items).toList ++ ']' :: rest) := by
      simp [Value.text]
    rw [htext, value?, arrayItems?_textItems depth hitems (by simp; omega)]
    rfl

theorem skipSpaces_text {v : Value} (h : v.IsLine) (rest : List Char) :
    skipSpaces (v.text.toList ++ rest) = v.text.toList ++ rest := by
  by_cases hscalar : v.IsScalar
  · obtain ⟨c, tail, htext, hc⟩ := exists_text_scalar hscalar
    rw [htext, List.cons_append, skipSpaces, List.dropWhile_cons_of_neg (by simp [hc.ne.1])]
  · obtain ⟨items, rfl, -⟩ := exists_items_of_isLine h hscalar
    have htext : (Value.array items).text.toList ++ rest =
        '[' :: ((textItems items).toList ++ ']' :: rest) := by
      simp [Value.text]
    rw [htext]
    rfl

/-- A text that is read as a value when it stands at the end of a line. -/
def ReadsLine (text : String) (v : Value) : Prop := ∀ rest,
  value? nestingLimit (skipSpaces (text.toList ++ '\n' :: rest)) = some (v, '\n' :: rest)

theorem Value.IsLine.readsLine {v : Value} (h : v.IsLine) : ReadsLine v.text v := by
  intro rest
  have hends : EndsValue ('\n' :: rest) := by simp [EndsValue]
  rw [skipSpaces_text h]
  exact value?_line 78 h hends

/-- The line of a key and the text of its value. -/
def lineOf (key text : String) : String := keyText key ++ " = " ++ text ++ "\n"

/-- A key and its value read back from their line. -/
theorem keyValue?_lineOf (key : String) {text : String} {v : Value} (h : ReadsLine text v)
    (rest : List Char) : keyValue? (value? nestingLimit) ((lineOf key text).toList ++ rest) =
      some ([key], v, '\n' :: rest) := by
  -- The line is the key, the sign with its blanks, and the value.
  have htext : (lineOf key text).toList ++ rest =
      (headerPath [key]).toList ++ ' ' :: '=' :: ' ' :: (text.toList ++ '\n' :: rest) := by
    have hpath : headerPath [key] = keyText key := rfl
    simp [lineOf, hpath]
  have hkey : key? ((headerPath [key]).toList ++
      ' ' :: '=' :: ' ' :: (text.toList ++ '\n' :: rest)) =
      some ([key], '=' :: ' ' :: (text.toList ++ '\n' :: rest)) :=
    key?_headerPath (by simp) (by simp [nestingLimit]) (by simp [isNameChar])
      (by simp [skipSpaces, isSpace])
  have hblank : skipSpaces (' ' :: (text.toList ++ '\n' :: rest)) =
      skipSpaces (text.toList ++ '\n' :: rest) := rfl
  rw [htext, keyValue?, hkey]
  simp only [Option.bind_eq_bind, Option.bind_some, mark?, beq_self_eq_true, if_true, hblank,
    h rest]

end DocSite.Toml
