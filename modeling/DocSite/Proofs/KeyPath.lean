import DocSite.FieldPath
import DocSite.Proofs.Toml.Keys
import DocSite.Proofs.Toml.Strings

/-!
# Key paths name keys

  A path is made step by step, of keys and of positions in lists, and its text is
  a dotted key of TOML with positions in brackets. Reading that text gives the
  steps back, unless a key has a character in it that a quoted key cannot hold as
  it is: keys are put between quotes without escapes. With quotes in a key, two
  different sequences of steps can even have one text.
-/

namespace DocSite

open DocSite.Text DocSite.Toml DocSite.Toml.Scanner

namespace FieldPath

/-! ## Paths of steps -/

/-- A path that is known beforehand: keys with dots between them. -/
def ofKeys (keys : List String) : FieldPath := ⟨joinText "." keys⟩

/-- The path of one step below a path. -/
def step (path : FieldPath) : Step → FieldPath
  | .key name => path.key name
  | .index i => path.index i

/-- The path of a sequence of steps below a path. -/
def steps (path : FieldPath) (below : List Step) : FieldPath := below.foldl step path

/-- The text of steps that stand behind others. -/
def behind : List Step → List Char
  | [] => []
  | .key name :: below => '.' :: ((keyText name).toList ++ behind below)
  | .index i :: below => '[' :: (Nat.toDigits 10 i ++ ']' :: behind below)

/-- The text of a whole sequence of steps. -/
def render : List Step → List Char
  | .key name :: below => (keyText name).toList ++ behind below
  | below => behind below

theorem toList_key (path : FieldPath) (name : String) :
    (path.key name).text.toList =
      if path.text.isEmpty then (keyText name).toList
      else path.text.toList ++ '.' :: (keyText name).toList := by
  unfold key
  split
  · rfl
  · simp

theorem toList_index (path : FieldPath) (i : Nat) :
    (path.index i).text.toList = path.text.toList ++ '[' :: (Nat.toDigits 10 i ++ [']']) := by
  simp [index]

theorem isBareKey_iff (name : String) :
    isBareKey name = true ↔ name.toList ≠ [] ∧ ∀ c ∈ name.toList, isNameChar c = true := by
  simp [isBareKey]

theorem keyText_of_isBareKey {name : String} (h : isBareKey name = true) : keyText name = name := by
  rw [keyText, if_pos h]

/-- What a key is written with first: a quote, or a character of names if it is bare. -/
theorem keyText_starts (name : String) :
    ∃ c tail, (keyText name).toList = c :: tail ∧ StartsKey c ∧
      (isBareKey name = true → isNameChar c = true) := by
  by_cases hbare : isBareKey name = true
  · rw [keyText_of_isBareKey hbare]
    obtain ⟨hne, hchars⟩ := (isBareKey_iff name).1 hbare
    obtain ⟨c, tail, hname⟩ := List.exists_cons_of_ne_nil hne
    have hc : isNameChar c = true := hchars c (by simp [hname])
    exact ⟨c, tail, hname, .inl hc, fun _ => hc⟩
  · refine ⟨'"', name.toList ++ ['"'], by simp [keyText, hbare], .inr (.inl rfl), ?_⟩
    exact fun h => absurd h hbare

theorem keyText_ne_nil (name : String) : (keyText name).toList ≠ [] := by
  obtain ⟨c, tail, htext, -⟩ := keyText_starts name
  rw [htext]
  exact List.cons_ne_nil c tail

theorem behind_append (front back : List Step) : behind (front ++ back) = behind front ++ behind back := by
  induction front with
  | nil => rfl
  | cons first front ih =>
    cases first with
    | key name => simp [behind, ih]
    | index i => simp [behind, ih]

theorem render_append {front : List Step} (h : front ≠ []) (back : List Step) :
    render (front ++ back) = render front ++ behind back := by
  obtain ⟨first, front, rfl⟩ := List.exists_cons_of_ne_nil h
  cases first with
  | key name => simp [render, behind_append]
  | index i => exact behind_append (.index i :: front) back

theorem render_ne_nil {known : List Step} (h : known ≠ []) : render known ≠ [] := by
  obtain ⟨first, below, rfl⟩ := List.exists_cons_of_ne_nil h
  cases first with
  | key name =>
    show (keyText name).toList ++ behind below ≠ []
    intro hnil
    exact keyText_ne_nil name (List.append_eq_nil_iff.1 hnil).1
  | index i => exact List.cons_ne_nil _ _

/-- One more step makes the text of one more step. The first one is the special case: a key that
nothing stands before has no dot. -/
theorem toList_step {path : FieldPath} {known : List Step} (h : path.text.toList = render known)
    (next : Step) : (path.step next).text.toList = render (known ++ [next]) := by
  by_cases hknown : known = []
  · subst hknown
    have hnil : path.text.toList = [] := h
    cases next with
    | key name =>
      show (path.key name).text.toList = (keyText name).toList ++ []
      rw [toList_key, if_pos (by simpa using hnil), List.append_nil]
    | index i =>
      show (path.index i).text.toList = _
      rw [toList_index, hnil]
      rfl
  · have hne : path.text.toList ≠ [] := by
      rw [h]
      exact render_ne_nil hknown
    rw [render_append hknown, ← h]
    cases next with
    | key name =>
      show (path.key name).text.toList = _
      rw [toList_key, if_neg (by simpa using hne)]
      simp [behind]
    | index i =>
      show (path.index i).text.toList = _
      rw [toList_index]
      rfl

theorem toList_steps {path : FieldPath} {known : List Step} (h : path.text.toList = render known)
    (below : List Step) : (path.steps below).text.toList = render (known ++ below) := by
  induction below generalizing path known with
  | nil =>
    rw [List.append_nil]
    exact h
  | cons next below ih =>
    show ((path.step next).steps below).text.toList = _
    rw [ih (toList_step h next), List.append_assoc, List.singleton_append]

/-- A beginning of bare keys has the text of its keys. -/
theorem toList_ofKeys {start : List String} (h : ∀ name ∈ start, isBareKey name = true) :
    (ofKeys start).text.toList = render (start.map .key) := by
  unfold ofKeys
  induction start with
  | nil => rfl
  | cons name start ih =>
    have hname : keyText name = name := keyText_of_isBareKey (h name List.mem_cons_self)
    have hstart := ih fun other hmem => h other (List.mem_cons_of_mem _ hmem)
    cases start with
    | nil => simp [joinText, render, behind, hname]
    | cons next start =>
      rw [joinText_cons_cons, String.toList_append, String.toList_append, hstart]
      simp [render, behind, hname]

/-! ## Reading a path

  The reader of a path is given the reader of one key, so that it can be asked what
  is found of a key by TOML, and what by somebody who only looks for the next quote.
-/

section Reader

variable (part : List Char → Option (String × List Char))

/-- The steps that a text behind others is made of: keys after dots, positions in brackets. -/
def behind? : (room : Nat) → List Char → Option (List Step)
  | _, [] => some []
  | 0, _ :: _ => none
  | room + 1, '.' :: cs => do
    let (name, rest) ← part cs
    let below ← behind? room rest
    some (.key name :: below)
  | room + 1, '[' :: cs =>
    match cs.span Char.isDigit with
    | (digits, ']' :: rest) =>
      if digits.isEmpty then none
      else (behind? room rest).map (.index (Numeral.natOfDigits digits) :: ·)
    | _ => none
  | _ + 1, _ :: _ => none

/-- The steps that a whole path is made of. -/
def steps? (path : FieldPath) : Option (List Step) :=
  let cs := path.text.toList
  match cs with
  | [] => some []
  | '[' :: _ => behind? part cs.length cs
  | _ => do
    let (name, rest) ← part cs
    let below ← behind? part cs.length rest
    some (.key name :: below)

end Reader

/-- What may stand behind a key: another step, or nothing. -/
def EndsKey (rest : List Char) : Prop := ∀ c ∈ rest.head?, c = '.' ∨ c = '['

theorem endsKey_behind (below : List Step) : EndsKey (behind below) := by
  cases below with
  | nil => simp [EndsKey, behind]
  | cons first below => cases first <;> simp [EndsKey, behind]

/-- A reader finds just the good keys: it gives them back with what stands behind them, and takes
the text of every other key for something else. -/
structure FindsExactly (part : List Char → Option (String × List Char)) (good : String → Prop) :
    Prop where
  finds : ∀ {name : String} {rest : List Char}, good name → EndsKey rest →
    part ((keyText name).toList ++ rest) = some (name, rest)
  good_of_found : ∀ {name : String} {rest after : List Char},
    part ((keyText name).toList ++ rest) = some (name, after) → good name

variable {part : List Char → Option (String × List Char)} {good : String → Prop}

/-- A position is read whatever stands behind it. -/
theorem behind?_index (room i : Nat) (below : List Step) :
    behind? part (room + 1) (behind (.index i :: below)) =
      (behind? part room (behind below)).map (.index i :: ·) := by
  have hdigits : (Nat.toDigits 10 i ++ ']' :: behind below).span Char.isDigit =
      (Nat.toDigits 10 i, ']' :: behind below) :=
    span_eq_iff.2 ⟨rfl, fun c hc => Nat.isDigit_of_mem_toDigits (by decide) (by decide) hc, by simp⟩
  have hfilled : (Nat.toDigits 10 i).isEmpty = false := by simp
  simp only [behind, behind?, hdigits, hfilled, Bool.false_eq_true, if_false,
    Numeral.natOfDigits_toDigits]

/-- A key and the steps behind it are read just if the key is good and those steps are read. -/
theorem key_behind?_iff (hpart : FindsExactly part good) {name : String} {below : List Step}
    {room : Nat} :
    (do
      let (name, rest) ← part ((keyText name).toList ++ behind below)
      let below ← behind? part room rest
      some (Step.key name :: below)) = some (.key name :: below) ↔
    good name ∧ behind? part room (behind below) = some below := by
  constructor
  · intro hread
    obtain ⟨⟨found, rest⟩, hfound, hrest⟩ := Option.bind_eq_some_iff.1 hread
    obtain ⟨others, hothers, hsame⟩ := Option.bind_eq_some_iff.1 hrest
    obtain ⟨hname, rfl⟩ := List.cons.inj (Option.some.inj hsame)
    obtain rfl := Step.key.inj hname
    have hgood : good found := hpart.good_of_found hfound
    -- A good key takes nothing of what stands behind it.
    have hwhole := hpart.finds hgood (endsKey_behind others)
    rw [hfound] at hwhole
    obtain ⟨-, rfl⟩ := Prod.mk.inj (Option.some.inj hwhole)
    exact ⟨hgood, hothers⟩
  · rintro ⟨hgood, hothers⟩
    rw [hpart.finds hgood (endsKey_behind below)]
    show (behind? part room (behind below)).bind _ = _
    rw [hothers]
    rfl

/-- Reading the steps behind others gives them back just if all keys among them are good. -/
theorem behind?_behind_iff (hpart : FindsExactly part good) {below : List Step} {room : Nat}
    (hroom : (behind below).length ≤ room) :
    behind? part room (behind below) = some below ↔ ∀ name, .key name ∈ below → good name := by
  -- By induction on the steps, of which each takes at least one character.
  induction below generalizing room with
  | nil => cases room <;> simp [behind, behind?]
  | cons first below ih =>
    obtain ⟨room, rfl⟩ : ∃ n, room = n + 1 := by
      refine Nat.exists_eq_add_one_of_ne_zero ?_
      rintro rfl
      cases first <;> simp [behind] at hroom
    have hbelow : (behind below).length ≤ room := by
      cases first <;> simp only [behind, List.length_cons, List.length_append] at hroom <;> omega
    cases first with
    | index i =>
      rw [behind?_index, Option.map_eq_some_iff]
      simp [ih hbelow]
    | key name =>
      rw [behind, behind?, key_behind?_iff hpart, ih hbelow]
      simp

/-- Reading a path gives its steps back just if all keys among them are good. -/
theorem steps?_render_iff (hpart : FindsExactly part good) {path : FieldPath} {whole : List Step}
    (htext : path.text.toList = render whole) :
    steps? part path = some whole ↔ ∀ name, .key name ∈ whole → good name := by
  -- A first key is read without a dot, so what comes first decides how reading starts.
  unfold steps?
  dsimp only
  cases whole with
  | nil =>
    rw [htext]
    simp [render, behind]
  | cons first below =>
    cases first with
    | index i =>
      rw [htext]
      exact behind?_behind_iff hpart le_rfl
    | key name =>
      have hshape : path.text.toList = (keyText name).toList ++ behind below := htext
      have hroom : (behind below).length ≤ path.text.toList.length := by
        rw [hshape, List.length_append]
        omega
      obtain ⟨c, tail, hhead, hc, -⟩ := keyText_starts name
      -- The text of a key never looks like a position.
      have hbracket : c ≠ '[' := hc.ne.2.2.2.2.1
      split
      · rename_i hnil
        rw [hshape, hhead] at hnil
        exact absurd hnil (List.cons_ne_nil _ _)
      · rename_i hfirst
        rw [hshape, hhead] at hfirst
        exact absurd (List.cons.inj hfirst).1 hbracket
      · rw [hshape] at hroom ⊢
        rw [key_behind?_iff hpart, behind?_behind_iff hpart hroom]
        simp

/-! ## The two readers of a key -/

theorem keyPart?_keyText_bare {name : String} (h : isBareKey name = true) {rest : List Char}
    (hrest : EndsKey rest) : keyPart? ((keyText name).toList ++ rest) = some (name, rest) := by
  have hends : ∀ c ∈ rest.head?, isNameChar c = false := by
    intro c hc
    rcases hrest c hc with rfl | rfl <;> decide
  obtain ⟨hne, hchars⟩ := (isBareKey_iff name).1 h
  rw [keyText_of_isBareKey h, keyPart?_bare hne hchars hends, String.ofList_toList]

/-- A key of TOML, with blanks around it. -/
def tomlKey? (cs : List Char) : Option (String × List Char) :=
  (keyPart? (skipSpaces cs)).map fun (name, rest) => (name, skipSpaces rest)

/-- A key between quotes that ends at the next quote, without escapes. -/
def rawKey? : List Char → Option (String × List Char)
  | '"' :: rest => (splitOnce '"' rest).map fun (name, after) => (String.ofList name, after)
  | cs => keyPart? cs

/-- A key that stands between quotes as it is: it has no quote in it, no backslash and no control
character but the tab. -/
def IsPlainKey (name : String) : Prop :=
  ∀ c ∈ name.toList, c ≠ '"' ∧ c ≠ '\\' ∧ isPlain c = true

-- Left to itself, Lean would go through all characters there are.
instance (name : String) : Decidable (IsPlainKey name) := List.decidableBAll _ name.toList

theorem isPlainKey_of_isBareKey {name : String} (h : isBareKey name = true) : IsPlainKey name := by
  intro c hc
  have hname : isNameChar c = true := ((isBareKey_iff name).1 h).2 c hc
  refine ⟨?_, ?_, ?_⟩
  · rintro rfl
    exact absurd hname (by decide)
  · rintro rfl
    exact absurd hname (by decide)
  · obtain ⟨hlow, hhigh⟩ : 0x21 ≤ c.toNat ∧ c.toNat ≤ 0x7e := isGraphic_of_isNameChar hname
    simp only [isPlain, Bool.or_eq_true, Bool.and_eq_true, decide_eq_true_eq, bne_iff_ne]
    exact .inr ⟨by omega, by omega⟩

/-- A text of plain characters is the body of a string as it is. -/
theorem basicBody?_plain {cs rest done : List Char} {room : Nat}
    (h : ∀ c ∈ cs, c ≠ '"' ∧ c ≠ '\\' ∧ isPlain c = true) (hroom : cs.length < room) :
    basicBody? room done (cs ++ '"' :: rest) = some (done.reverse ++ cs, rest) := by
  induction cs generalizing room done with
  | nil =>
    obtain ⟨room, rfl⟩ := Nat.exists_eq_add_one_of_ne_zero (Nat.ne_of_gt hroom)
    simp [basicBody?]
  | cons c cs ih =>
    obtain ⟨room, rfl⟩ := Nat.exists_eq_add_one_of_ne_zero (Nat.ne_of_gt (Nat.zero_lt_of_lt hroom))
    obtain ⟨hquote, hback, hplain⟩ := h c List.mem_cons_self
    rw [List.cons_append, basicBody?, if_neg (by simpa using hquote), if_neg (by simpa using hback),
      if_pos hplain, ih (fun x hx => h x (List.mem_cons_of_mem _ hx)) (by simpa using hroom)]
    simp

/-- The digits of an escape stand before the next quote. -/
theorem hexEscape?_before_quote {count : Nat} {cs rest after : List Char} {e : Char}
    (hquote : '"' ∉ cs) (h : hexEscape? count (cs ++ '"' :: rest) = some (e, after)) :
    ∃ more, after = more ++ '"' :: rest ∧ more.length ≤ cs.length ∧ '"' ∉ more := by
  unfold hexEscape? at h
  dsimp only at h
  split at h
  · rename_i hdigits
    simp only [Bool.and_eq_true, decide_eq_true_eq, List.all_eq_true] at hdigits
    obtain ⟨_, -, hpair⟩ := Option.map_eq_some_iff.1 h
    obtain ⟨-, rfl⟩ := Prod.mk.inj hpair
    -- A quote is no digit, so the digits that are taken all stand before it.
    have hcount : count ≤ cs.length := by
      by_contra hlong
      have hmem : '"' ∈ (cs ++ '"' :: rest).take count := by
        obtain ⟨n, hn⟩ := Nat.exists_eq_add_one_of_ne_zero (n := count - cs.length) (by omega)
        rw [List.take_append, hn, List.take_succ_cons]
        exact List.mem_append_right _ List.mem_cons_self
      exact absurd (hdigits.2 _ hmem) (by decide)
    refine ⟨cs.drop count, List.drop_append_of_le_length hcount, ?_, ?_⟩
    · rw [List.length_drop]
      omega
    · exact fun hmem => hquote (List.mem_of_mem_drop hmem)
  · simp at h

/-- An escape takes something off the text before a quote, unless it stands for that quote. -/
theorem escape?_before_quote {cs rest after : List Char} {e : Char} (hquote : '"' ∉ cs)
    (h : escape? (cs ++ '"' :: rest) = some (e, after)) :
    e = '"' ∨ ∃ more, after = more ++ '"' :: rest ∧ more.length < cs.length ∧ '"' ∉ more := by
  cases cs with
  | nil =>
    obtain ⟨rfl, -⟩ := Prod.mk.inj (Option.some.inj h)
    exact .inl rfl
  | cons c cs =>
    right
    -- All escapes but that of a quote take a letter alone or hexadecimal digits.
    have hcs : '"' ∉ cs := fun hmem => hquote (List.mem_cons_of_mem _ hmem)
    have hletter : ∀ x, some (x, cs ++ '"' :: rest) = some (e, after) →
        ∃ more, after = more ++ '"' :: rest ∧ more.length < (c :: cs).length ∧ '"' ∉ more := by
      intro x hx
      obtain ⟨-, rfl⟩ := Prod.mk.inj (Option.some.inj hx)
      exact ⟨cs, rfl, Nat.lt_succ_self _, hcs⟩
    have hhex : ∀ count, hexEscape? count (cs ++ '"' :: rest) = some (e, after) →
        ∃ more, after = more ++ '"' :: rest ∧ more.length < (c :: cs).length ∧ '"' ∉ more := by
      intro count hread
      obtain ⟨more, hafter, hlength, hmore⟩ := hexEscape?_before_quote hcs hread
      exact ⟨more, hafter, Nat.lt_succ_of_le hlength, hmore⟩
    rw [List.cons_append] at h
    unfold escape? at h
    split at h
    all_goals
      first
      | (rename_i heq
         obtain ⟨-, rfl⟩ := List.cons.inj heq
         first
         | exact hletter _ h
         | exact hhex _ h)
      | simp at h

/-- What was read of a string stays at its front. -/
theorem done_of_basicBody? {room : Nat} {done cs body after : List Char}
    (h : basicBody? room done cs = some (body, after)) : ∃ tail, body = done.reverse ++ tail := by
  induction room generalizing done cs with
  | zero => simp [basicBody?] at h
  | succ room ih =>
    -- One more character read leaves the earlier ones where they are.
    have hcons : ∀ {c : Char} {cs : List Char}, basicBody? room (c :: done) cs = some (body, after) →
        ∃ tail, body = done.reverse ++ tail := by
      intro c cs hread
      obtain ⟨tail, rfl⟩ := ih hread
      exact ⟨c :: tail, by simp⟩
    cases cs with
    | nil => simp [basicBody?] at h
    | cons c cs =>
      rw [basicBody?] at h
      split at h
      · obtain ⟨rfl, -⟩ := Prod.mk.inj (Option.some.inj h)
        exact ⟨[], by simp⟩
      · split at h
        · split at h
          · exact hcons h
          · simp at h
        · split at h
          · exact hcons h
          · simp at h

/-- What a string with a text before the first quote in it is read as: the text, if it is plain, and
otherwise something that is shorter or has a quote too early. -/
theorem basicBody?_before_quote {cs rest done body after : List Char} {room : Nat}
    (hquote : '"' ∉ cs) (h : basicBody? room done (cs ++ '"' :: rest) = some (body, after)) :
    ∃ tail, body = done.reverse ++ tail ∧
      ((tail = cs ∧ ∀ c ∈ cs, c ≠ '"' ∧ c ≠ '\\' ∧ isPlain c = true) ∨
        (tail.takeWhile (· != '"')).length < cs.length) := by
  induction room generalizing cs done with
  | zero => simp [basicBody?] at h
  | succ room ih =>
    cases cs with
    | nil =>
      simp only [List.nil_append, basicBody?, beq_self_eq_true, if_true, Option.some.injEq,
        Prod.mk.injEq] at h
      exact ⟨[], by simp [h.1], .inl ⟨rfl, by simp⟩⟩
    | cons c cs =>
      have hc : c ≠ '"' := fun he => hquote (by simp [he])
      have hcs : '"' ∉ cs := fun hmem => hquote (List.mem_cons_of_mem _ hmem)
      -- One more character adds at most one to what stands before the first quote.
      have hlonger : ∀ (e : Char) (tail : List Char), ((e :: tail).takeWhile (· != '"')).length ≤
          (tail.takeWhile (· != '"')).length + 1 := by
        intro e tail
        rw [List.takeWhile_cons]
        split <;> simp
      rw [List.cons_append, basicBody?, if_neg (by simpa using hc)] at h
      split at h
      · split at h
        · rename_i e text hescape
          -- An escaped quote comes too early; any other escape uses up more than it gives.
          rcases escape?_before_quote hcs hescape with rfl | ⟨more, rfl, hlength, hmore⟩
          · obtain ⟨tail, rfl⟩ := done_of_basicBody? h
            exact ⟨'"' :: tail, by simp, .inr (by simp)⟩
          · obtain ⟨tail, rfl, htail⟩ := ih hmore h
            have hshort : (tail.takeWhile (· != '"')).length ≤ more.length := by
              rcases htail with ⟨rfl, -⟩ | hless
              · exact List.takeWhile_prefix _ |>.length_le
              · exact hless.le
            refine ⟨e :: tail, by simp, .inr ?_⟩
            have he := hlonger e tail
            rw [List.length_cons]
            omega
        · simp at h
      · rename_i hback
        split at h
        · rename_i hplain
          obtain ⟨tail, rfl, htail⟩ := ih hcs h
          refine ⟨c :: tail, by simp, ?_⟩
          rcases htail with ⟨rfl, hall⟩ | hshort
          · exact .inl ⟨rfl, List.forall_mem_cons.2 ⟨⟨hc, by simpa using hback, hplain⟩, hall⟩⟩
          · have he := hlonger c tail
            rw [List.length_cons]
            exact .inr (by omega)
        · simp at h

/-- A text that a string gives back as it is has plain characters only. -/
theorem plain_of_basicBody? {cs rest after : List Char} {room : Nat}
    (h : basicBody? room [] (cs ++ '"' :: rest) = some (cs, after)) :
    ∀ c ∈ cs, c ≠ '"' ∧ c ≠ '\\' ∧ isPlain c = true := by
  by_cases hquote : '"' ∈ cs
  · exfalso
    -- What is read has its first quote where the text has it, or it has none or an earlier one.
    obtain ⟨front, back, rfl, hfront⟩ := List.eq_append_cons_of_mem hquote
    rw [List.append_assoc, List.cons_append] at h
    -- Up to the first quote in it, a text that is given back is as long as it was.
    have hfirst : (front ++ '"' :: back).takeWhile (· != '"') = front := by
      rw [List.takeWhile_append_of_pos fun c hc => by simpa using ne_of_mem_of_not_mem hc hfront]
      simp
    obtain ⟨tail, heq, ⟨rfl, -⟩ | hshort⟩ := basicBody?_before_quote hfront h
    · simp at heq
    · obtain rfl : _ = tail := heq
      rw [hfirst] at hshort
      exact lt_irrefl _ hshort
  · obtain ⟨tail, heq, ⟨-, hplain⟩ | hshort⟩ := basicBody?_before_quote hquote h
    · exact hplain
    · obtain rfl : cs = tail := heq
      rw [List.takeWhile_eq_self_iff.2 fun c hc => by simpa using ne_of_mem_of_not_mem hc hquote]
        at hshort
      exact absurd hshort (lt_irrefl _)

/-- For a reader that finds all bare keys, only those between quotes are left to look at. -/
theorem FindsExactly.of_quoted
    (hbare : ∀ {name : String} {rest : List Char}, isBareKey name = true → EndsKey rest →
      part ((keyText name).toList ++ rest) = some (name, rest))
    (hgood : ∀ {name : String}, isBareKey name = true → good name)
    (hfinds : ∀ {name : String} {rest : List Char}, good name → EndsKey rest →
      part ('"' :: (name.toList ++ '"' :: rest)) = some (name, rest))
    (hfound : ∀ {name : String} {rest after : List Char},
      part ('"' :: (name.toList ++ '"' :: rest)) = some (name, after) → good name) :
    FindsExactly part good := by
  have hquoted : ∀ {name : String} (rest : List Char), ¬isBareKey name = true →
      (keyText name).toList ++ rest = '"' :: (name.toList ++ '"' :: rest) := by
    intro name rest hbare
    simp [keyText, hbare]
  constructor
  · intro name rest hname hrest
    by_cases h : isBareKey name = true
    · exact hbare h hrest
    · rw [hquoted rest h]
      exact hfinds hname hrest
  · intro name rest after hread
    by_cases h : isBareKey name = true
    · exact hgood h
    · rw [hquoted rest h] at hread
      exact hfound hread

/-- TOML gives back the plain keys. -/
theorem findsExactly_tomlKey? : FindsExactly tomlKey? IsPlainKey := by
  -- A key ends where a dot, a bracket or nothing follows, and none of them is a space.
  have hspaces : ∀ {rest : List Char}, EndsKey rest → skipSpaces rest = rest := by
    intro rest hrest
    refine dropWhile_of_head fun c hc => ?_
    rcases hrest c hc with rfl | rfl <;> rfl
  refine .of_quoted ?_ isPlainKey_of_isBareKey ?_ ?_
  · intro name rest hbare hrest
    have hstart : skipSpaces ((keyText name).toList ++ rest) = (keyText name).toList ++ rest := by
      obtain ⟨c, tail, hhead, hc, -⟩ := keyText_starts name
      rw [hhead, List.cons_append, skipSpaces, List.dropWhile_cons_of_neg (by simp [hc.ne.1])]
    rw [tomlKey?, hstart, keyPart?_keyText_bare hbare hrest]
    show some (name, skipSpaces rest) = _
    rw [hspaces hrest]
  · intro name rest hplain hrest
    show (keyPart? ('"' :: (name.toList ++ '"' :: rest))).map _ = _
    rw [keyPart?, basicBody?_plain hplain (by simp)]
    show some (String.ofList name.toList, skipSpaces rest) = _
    rw [hspaces hrest, String.ofList_toList]
  · intro name rest after hread
    change (keyPart? ('"' :: (name.toList ++ '"' :: rest))).map _ = _ at hread
    obtain ⟨⟨found, tail⟩, hpart, hpair⟩ := Option.map_eq_some_iff.1 hread
    obtain ⟨rfl, -⟩ := Prod.mk.inj hpair
    obtain ⟨⟨body, end_⟩, hbody, hsame⟩ := Option.map_eq_some_iff.1 hpart
    obtain ⟨hname, -⟩ := Prod.mk.inj hsame
    obtain rfl : body = found.toList := by rw [← hname, String.toList_ofList]
    exact plain_of_basicBody? hbody

/-- Looking for the next quote gives back the keys without quotes. -/
theorem findsExactly_rawKey? : FindsExactly rawKey? fun name => '"' ∉ name.toList := by
  refine .of_quoted ?_ ?_ ?_ ?_
  · intro name rest hbare hrest
    rw [← keyPart?_keyText_bare hbare hrest]
    obtain ⟨c, tail, hhead, -, hname⟩ := keyText_starts name
    have hc := hname hbare
    rw [hhead, List.cons_append]
    -- A bare key has no quote in front.
    unfold rawKey?
    split
    · rename_i heq
      obtain ⟨rfl, -⟩ := List.cons.inj heq
      exact absurd hc (by decide)
    · rfl
  · intro name hbare hmem
    exact (isPlainKey_of_isBareKey hbare _ hmem).1 rfl
  · intro name rest hquote _
    rw [rawKey?, splitOnce_append hquote]
    simp
  · intro name rest after hread
    obtain ⟨⟨before, tail⟩, hsplit, hpair⟩ := Option.map_eq_some_iff.1 hread
    obtain ⟨hname, -⟩ := Prod.mk.inj hpair
    have hbefore := (splitOnce_eq_some hsplit).2
    rwa [← hname, String.toList_ofList]

/-! ## Paths read back -/

/-- A path that goes on below known bare keys is read back by TOML just if all keys it goes on with
are plain; and as long as no key has a quote in it, no other steps have the same path. -/
theorem steps_read_back_iff {start : List String} (h : ∀ name ∈ start, isBareKey name = true) :
    (∀ below : List Step,
      steps? tomlKey? ((ofKeys start).steps below) = some (start.map .key ++ below) ↔
        ∀ name, .key name ∈ below → IsPlainKey name) ∧
    ∀ below others : List Step, (∀ name, .key name ∈ below ++ others → '"' ∉ name.toList) →
      (ofKeys start).steps below = (ofKeys start).steps others → below = others := by
  -- Both ways of reading are covered: by TOML, and by looking for the next quote.
  have hreads : ∀ {part : List Char → Option (String × List Char)} {good : String → Prop},
      FindsExactly part good → (∀ name, isBareKey name = true → good name) →
      ∀ below : List Step,
        steps? part ((ofKeys start).steps below) = some (start.map .key ++ below) ↔
          ∀ name, .key name ∈ below → good name := by
    intro part good hpart hgood below
    rw [steps?_render_iff hpart (toList_steps (toList_ofKeys h) below)]
    constructor
    · intro hall name hname
      exact hall name (List.mem_append_right _ hname)
    · intro hall name hname
      rcases List.mem_append.1 hname with hstart | hbelow
      · obtain ⟨known, hknown, hsame⟩ := List.mem_map.1 hstart
        obtain rfl := Step.key.inj hsame
        exact hgood known (h known hknown)
      · exact hall name hbelow
  have hbare : ∀ name, isBareKey name = true → '"' ∉ name.toList := by
    intro name hname hmem
    exact (isPlainKey_of_isBareKey hname _ hmem).1 rfl
  refine ⟨hreads findsExactly_tomlKey? fun _ => isPlainKey_of_isBareKey, ?_⟩
  intro below others hquotes hsame
  -- The steps are read off their common text by looking for quotes.
  have hbelow := (hreads findsExactly_rawKey? hbare below).2 fun name hname =>
    hquotes name (List.mem_append_left _ hname)
  have hothers := (hreads findsExactly_rawKey? hbare others).2 fun name hname =>
    hquotes name (List.mem_append_right _ hname)
  rw [hsame, hothers] at hbelow
  exact (List.append_cancel_left (Option.some.inj hbelow)).symm

/-- Two keys that have to be quoted, with a position between them, are read back. -/
theorem steps_read_back_iff_quoted :
    (∀ name ∈ ["theme", "extend", "colors"], isBareKey name = true) ∧
      steps? tomlKey? ((ofKeys ["theme", "extend", "colors"]).steps
        [.key "a.b", .index 10, .key "", .key "[0]"]) =
      some [.key "theme", .key "extend", .key "colors",
        .key "a.b", .index 10, .key "", .key "[0]"] := by
  have hstart : ∀ name ∈ ["theme", "extend", "colors"], isBareKey name = true := by decide
  refine ⟨hstart, ((steps_read_back_iff hstart).1 _).2 fun name hname => ?_⟩
  simp only [List.mem_cons, List.not_mem_nil, Step.key.injEq, reduceCtorEq, or_false, false_or]
    at hname
  rcases hname with rfl | rfl | rfl <;> decide

/-- A quote in a key ends it, and what follows can pass for one more key. -/
theorem steps_collide :
    (ofKeys ["theme", "extend", "colors"]).steps [.key "a b\".\"c d"] =
      (ofKeys ["theme", "extend", "colors"]).steps [.key "a b", .key "c d"] ∧
    steps? tomlKey? ((ofKeys ["theme", "extend", "colors"]).steps [.key "a b\".\"c d"]) ≠
      some [.key "theme", .key "extend", .key "colors", .key "a b\".\"c d"] := by
  constructor
  · decide
  · decide

end FieldPath
end DocSite
