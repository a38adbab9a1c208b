import DocSite.Proofs.Text
import DocSite.Toml.Printer
import DocSite.Toml.Scanner

/-!
# Strings and keys read back

  A text is written in the plainest of four forms. Each form is read by a
  function of its own, which has to find the end of the text: the first quote of
  a one-line string, the first three quotes of a multi-line string, up to two
  more of which belong to the text. The writer leaves as many quotes side by side
  as cannot be taken for that end.
-/

namespace DocSite.Toml

open DocSite.Text Scanner

/-! ## Escapes -/

/-- A chunk that a backslash begins and that stands for a character. -/
def Escapes (c : Char) (chunk : List Char) : Prop :=
  ∃ x body, chunk = '\\' :: x :: body ∧ isSpace x = false ∧ x ≠ '\n' ∧ x ≠ '\r' ∧
    ∀ rest, escape? (x :: body ++ rest) = some (c, rest)

theorem hexValue_upperHexDigit : ∀ d < 16, hexValue (upperHexDigit d) = d := by decide

theorem isHexDigit_upperHexDigit : ∀ d < 16, isHexDigit (upperHexDigit d) = true := by decide

@[simp] theorem scalar?_toNat (c : Char) : scalar? c.toNat = some c := by
  have hvalid : c.toNat.isValidChar := c.valid
  unfold scalar?
  rw [dif_pos hvalid]
  rfl

/-- Four hexadecimal digits stand for the character of that code point. -/
theorem escapes_hex {c : Char} (hc : c.toNat < 0x100) :
    Escapes c ('\\' :: 'u' :: '0' :: '0' ::
      [upperHexDigit (c.toNat / 16), upperHexDigit (c.toNat % 16)]) := by
  refine ⟨'u', _, rfl, rfl, by decide, by decide, ?_⟩
  intro rest
  have hhigh : c.toNat / 16 < 16 := by omega
  have hlow : c.toNat % 16 < 16 := by omega
  have hread : readDigits 16
      ['0', '0', upperHexDigit (c.toNat / 16), upperHexDigit (c.toNat % 16)] = c.toNat := by
    simp only [readDigits, List.foldl_cons, List.foldl_nil, hexValue_upperHexDigit _ hhigh,
      hexValue_upperHexDigit _ hlow, show hexValue '0' = 0 from rfl]
    omega
  have hzero : isHexDigit '0' = true := rfl
  simp [escape?, hexEscape?, hzero, isHexDigit_upperHexDigit _ hhigh,
    isHexDigit_upperHexDigit _ hlow, hread]

theorem escapes_letter {c x : Char} (hx : isSpace x = false ∧ x ≠ '\n' ∧ x ≠ '\r')
    (h : ∀ rest, escape? (x :: rest) = some (c, rest)) : Escapes c ['\\', x] :=
  ⟨x, [], rfl, hx.1, hx.2.1, hx.2.2, h⟩

/-- Every character of ASCII has an escape that stands for it. -/
theorem escapes_escapeText {c : Char} (hc : c.toNat < 0x80) : Escapes c (escapeText c) := by
  unfold escapeText
  repeat' split
  all_goals first
    | (rename_i h
       obtain rfl := eq_of_beq h
       exact escapes_letter (by decide) fun _ => rfl)
    | exact escapes_hex (by omega)

/-! ## Bodies -/

/-- What the writer does with a character: a quote that cannot end the string and a line feed of a
multi-line string stay as they are, as do plain characters; all others are escaped. -/
theorem escapeBody_cons (multiline : Bool) (spare run : Nat) (c : Char) (cs : List Char) :
    (c = '"' ∧ run < spare ∧ escapeBody multiline spare run (c :: cs) =
        '"' :: escapeBody multiline spare (run + 1) cs) ∨
      (c = '\n' ∧ multiline = true ∧ escapeBody multiline spare run (c :: cs) =
        '\n' :: escapeBody multiline spare 0 cs) ∨
      (Escapes c (escapeText c) ∧ escapeBody multiline spare run (c :: cs) =
        escapeText c ++ escapeBody multiline spare 0 cs) ∨
      (isPlain c = true ∧ c ≠ '"' ∧ c ≠ '\\' ∧ c ≠ '\n' ∧ c ≠ '\r' ∧
        escapeBody multiline spare run (c :: cs) = c :: escapeBody multiline spare 0 cs) := by
  rw [escapeBody]
  split
  · rename_i hquote
    -- Only a quote that does not complete a closing run may stay.
    obtain rfl := eq_of_beq hquote
    split
    · rename_i hrun
      exact .inl ⟨rfl, hrun, rfl⟩
    · exact .inr (.inr (.inl ⟨escapes_escapeText (by decide), rfl⟩))
  · rename_i hquote
    split
    · rename_i hfeed
      simp only [Bool.and_eq_true, beq_iff_eq] at hfeed
      obtain ⟨rfl, hmultiline⟩ := hfeed
      exact .inr (.inl ⟨rfl, hmultiline, rfl⟩)
    · split
      · rename_i hescape
        refine .inr (.inr (.inl ⟨escapes_escapeText ?_, rfl⟩))
        -- What is escaped has a short form or is a control character.
        simp only [isControl, Bool.or_eq_true, Bool.and_eq_true, beq_iff_eq, decide_eq_true_eq]
          at hescape
        rcases hescape with ((rfl | rfl) | rfl) | (⟨⟨hlt, -⟩, -⟩ | hdel)
        · decide
        · decide
        · decide
        · omega
        · omega
      · rename_i hescape
        simp only [isControl, Bool.or_eq_true, Bool.and_eq_true, beq_iff_eq, decide_eq_true_eq,
          bne_iff_ne, not_or, not_and, not_not] at hescape
        obtain ⟨⟨⟨hback, htab⟩, hfeed⟩, hlow, hdel⟩ := hescape
        -- A plain character is none of the control characters, all of which were ruled out.
        have hplain : 0x20 ≤ c.toNat := by
          by_contra hlt
          exact hfeed (hlow ⟨by omega, htab⟩)
        refine .inr (.inr (.inr ⟨?_, by simpa using hquote, hback, hfeed, ?_, rfl⟩))
        · simp [isPlain, hplain, hdel]
        · rintro rfl
          simp at hplain

/-- The body of a one-line string reads back. -/
theorem basicBody?_escapeBody {cs rest done : List Char} {room run : Nat}
    (hroom : (escapeBody false 0 run cs).length < room) :
    basicBody? room done (escapeBody false 0 run cs ++ '"' :: rest) =
      some (done.reverse ++ cs, rest) := by
  induction cs generalizing room run done with
  | nil =>
    obtain ⟨room, rfl⟩ := Nat.exists_eq_add_one_of_ne_zero (Nat.ne_of_gt hroom)
    simp [escapeBody, basicBody?]
  | cons c cs ih =>
    obtain ⟨room, rfl⟩ := Nat.exists_eq_add_one_of_ne_zero (Nat.ne_of_gt (Nat.zero_lt_of_lt hroom))
    have hdone : done.reverse ++ c :: cs = (c :: done).reverse ++ cs := by simp
    rw [hdone]
    rcases escapeBody_cons false 0 run c cs with ⟨-, hrun, -⟩ | ⟨-, hline, -⟩ | ⟨hescape, heq⟩ |
      ⟨hplain, hquote, hback, -, -, heq⟩
    · -- In a one-line string no quote stays, and neither does a line feed.
      omega
    · simp at hline
    · obtain ⟨x, body, hchunk, -, -, -, hread⟩ := hescape
      rw [heq, hchunk] at hroom ⊢
      -- The reader takes the whole escape, which stands for the character.
      simp only [List.cons_append, List.append_assoc] at hread ⊢
      rw [basicBody?, if_neg (by decide), if_pos (by decide), hread]
      refine ih ?_
      simp only [List.cons_append, List.length_cons, List.length_append] at hroom
      omega
    · rw [heq] at hroom ⊢
      rw [List.cons_append, basicBody?, if_neg (by simpa using hquote), if_neg (by simpa using hback),
        if_pos hplain]
      exact ih (by simpa using hroom)

/-- The body of a one-line literal string reads back. -/
theorem literalBody?_append {cs rest : List Char} (hquote : '\'' ∉ cs)
    (hplain : ∀ c ∈ cs, isPlain c = true) :
    literalBody? (cs ++ '\'' :: rest) = some (cs, rest) := by
  induction cs with
  | nil => simp [literalBody?]
  | cons c cs ih =>
    have hc : c ≠ '\'' := by
      rintro rfl
      simp at hquote
    have hrest := ih (fun h => hquote (List.mem_cons_of_mem _ h))
      fun x hx => hplain x (List.mem_cons_of_mem _ hx)
    rw [List.cons_append, literalBody?, if_neg (by simpa using hc),
      if_pos (hplain c (by simp)), hrest]
    rfl

/-! ## Multi-line bodies -/

/-- The longest run of quotes at the front, and what follows it. -/
structure Leads (quote : Char) (cs : List Char) (run : Nat) (tail : List Char) : Prop where
  eq : cs = List.replicate run quote ++ tail
  stop : ∀ c ∈ tail.head?, c ≠ quote

/-- Three quotes end a multi-line string only if at most two quotes stand right before them. -/
theorem closing?_append {quote : Char} {cs rest tail : List Char} {run : Nat}
    (h : Leads quote cs run tail) (hrun : run ≤ 2) (hrest : ∀ c ∈ rest.head?, c ≠ quote) :
    closing? quote (cs ++ quote :: quote :: quote :: rest) =
      if tail = [] then some (cs, rest) else none := by
  have hmany : ∀ n, ∀ c ∈ List.replicate n quote, (c == quote) = true := by
    intro n c hc
    rw [List.eq_of_mem_replicate hc, beq_self_eq_true]
  have hspan : ∀ after : List Char, ∀ n, (∀ c ∈ after.head?, c ≠ quote) →
      ((List.replicate n quote ++ after).takeWhile (· == quote)).length = n := by
    intro after n hafter
    have hsplit := (span_eq_iff (p := (· == quote))).2
      ⟨rfl, hmany n, fun c hc => by simpa using hafter c hc⟩
    rw [List.span_eq_takeWhile_dropWhile] at hsplit
    rw [(Prod.mk.inj hsplit).1, List.length_replicate]
  unfold closing?
  split
  · -- Only quotes stand in front, so the closing ones are the last three of them.
    rename_i hnil
    obtain rfl : cs = List.replicate run quote := by rw [h.eq, hnil, List.append_nil]
    have hall : List.replicate run quote ++ quote :: quote :: quote :: rest =
        List.replicate (run + 3) quote ++ rest := by
      rw [List.replicate_add, List.append_assoc]
      rfl
    have hextra : min (run + 3 - 3) 2 = run := by omega
    have hdrop : (List.replicate (run + 3) quote ++ rest).drop (run + 3) = rest :=
      List.drop_left' List.length_replicate
    simp only [hall, hspan rest (run + 3) hrest, hextra, hdrop]
    rw [if_pos (by omega)]
  · -- The run stops before the closing quotes and is too short to close the string.
    rename_i hne
    obtain ⟨c, tail, rfl⟩ := List.exists_cons_of_ne_nil hne
    have hcount := hspan (c :: tail ++ quote :: quote :: quote :: rest) run (by simpa using h.stop)
    simp only [h.eq, List.append_assoc, hcount]
    rw [if_neg (by omega)]

/-- The quotes at the front of a written body are no more than may stand there. -/
theorem leads_escapeBody (cs : List Char) {run : Nat} (hrun : run ≤ 2) :
    ∃ n tail, Leads '"' (escapeBody true 2 run cs) n tail ∧ run + n ≤ 2 ∧
      (tail = [] → escapeBody true 2 run cs = cs) := by
  induction cs generalizing run with
  | nil => exact ⟨0, [], ⟨rfl, by simp⟩, by omega, fun _ => rfl⟩
  | cons c cs ih =>
    rcases escapeBody_cons true 2 run c cs with ⟨rfl, hlt, heq⟩ | ⟨rfl, -, heq⟩ | ⟨hescape, heq⟩ |
      ⟨-, hquote, -, -, -, heq⟩
    · -- A quote that stays makes the run longer.
      obtain ⟨n, tail, hleads, hle, hsame⟩ := @ih (run + 1) (by omega)
      refine ⟨n + 1, tail, ⟨?_, hleads.stop⟩, by omega, ?_⟩
      · rw [heq, hleads.eq, List.replicate_succ, List.cons_append]
      · intro hnil
        rw [heq, hsame hnil]
    · -- Anything else stops it.
      rw [heq]
      exact ⟨0, _, ⟨rfl, by simp⟩, by omega, by simp⟩
    · obtain ⟨x, body, hchunk, -⟩ := hescape
      rw [heq, hchunk]
      exact ⟨0, _, ⟨rfl, by simp⟩, by omega, by simp⟩
    · rw [heq]
      exact ⟨0, _, ⟨rfl, by simpa using hquote⟩, by omega, by simp⟩

theorem multilineBody?_closing {cs extra rest done : List Char} {room : Nat}
    (h : closing? '"' cs = some (extra, rest)) :
    multilineBody? (room + 1) done cs = some (done.reverse ++ extra, rest) := by
  cases cs with
  | nil => simp [closing?] at h
  | cons c cs => simp only [multilineBody?, h]

/-- The body of a multi-line string reads back. -/
theorem multilineBody?_escapeBody {cs rest done : List Char} {room run : Nat}
    (hrest : ∀ c ∈ rest.head?, c ≠ '"') (hrun : run ≤ 2)
    (hroom : (escapeBody true 2 run cs).length < room) :
    multilineBody? room done (escapeBody true 2 run cs ++ '"' :: '"' :: '"' :: rest) =
      some (done.reverse ++ cs, rest) := by
  induction cs generalizing room run done with
  | nil =>
    obtain ⟨room, rfl⟩ := Nat.exists_eq_add_one_of_ne_zero (Nat.ne_of_gt (Nat.zero_lt_of_lt hroom))
    have hleads : Leads '"' [] 0 [] := ⟨rfl, by simp⟩
    exact multilineBody?_closing (closing?_append hleads (by omega) hrest)
  | cons c cs ih =>
    obtain ⟨room, rfl⟩ := Nat.exists_eq_add_one_of_ne_zero (Nat.ne_of_gt (Nat.zero_lt_of_lt hroom))
    obtain ⟨n, tail, hleads, hle, hsame⟩ := leads_escapeBody (c :: cs) hrun
    have hclosing := closing?_append hleads (by omega) hrest
    by_cases hnil : tail = []
    · -- Only quotes are left, and they stand right before the closing ones.
      rw [if_pos hnil, hsame hnil] at hclosing
      rw [hsame hnil]
      exact multilineBody?_closing hclosing
    · -- Something else than quotes comes, so the string does not end here.
      rw [if_neg hnil] at hclosing
      have hdone : done.reverse ++ c :: cs = (c :: done).reverse ++ cs := by simp
      rw [hdone]
      rcases escapeBody_cons true 2 run c cs with ⟨rfl, hlt, heq⟩ | ⟨rfl, -, heq⟩ |
        ⟨hescape, heq⟩ | ⟨hplain, hquote, hback, hfeed, hreturn, heq⟩
      · rw [heq, List.cons_append] at hclosing ⊢
        rw [multilineBody?, hclosing]
        exact ih (by omega) (by simpa [heq] using hroom)
      · rw [heq, List.cons_append] at hclosing ⊢
        rw [multilineBody?, hclosing]
        exact ih (by omega) (by simpa [heq] using hroom)
      · -- An escape is neither a line feed nor a line that goes on below.
        obtain ⟨x, body, hchunk, hspace, hfeed, hreturn, hread⟩ := hescape
        rw [heq, hchunk] at hroom hclosing ⊢
        simp only [List.cons_append, List.append_assoc] at hread hclosing ⊢
        have hnewline : ∀ after, newline? (x :: after) = none := by
          intro after
          simp [newline?, hfeed, hreturn]
        have hjoin : ∀ after, continuation? (x :: after) = none := by
          intro after
          simp [continuation?, skipSpaces, hspace, hnewline]
        rw [multilineBody?, hclosing]
        simp only [newline?, beq_self_eq_true, if_true, hjoin, hread]
        refine ih (by omega) ?_
        simp only [List.cons_append, List.length_cons, List.length_append] at hroom
        omega
      · rw [heq, List.cons_append] at hclosing ⊢
        have hnewline : ∀ after, newline? (c :: after) = none := by
          intro after
          simp [newline?, hfeed, hreturn]
        rw [multilineBody?, hclosing]
        simp only [hnewline, hplain, if_true]
        rw [if_neg (by simpa using hback)]
        exact ih (by omega) (by simpa [heq] using hroom)

theorem isPlain_of_not_isControl {c : Char} (h : isControl c = false) (hfeed : c ≠ '\n') :
    isPlain c = true := by
  unfold isControl at h
  unfold isPlain
  simp only [Bool.or_eq_false_iff, Bool.and_eq_false_iff, decide_eq_false_iff_not, bne_eq_false_iff_eq,
    beq_eq_false_iff_ne, hfeed, or_false] at h
  simp only [Bool.or_eq_true, beq_iff_eq, Bool.and_eq_true, decide_eq_true_eq, bne_iff_ne]
  by_cases htab : c = '\t'
  · exact .inl htab
  · simp only [htab, or_false] at h
    exact .inr ⟨by omega, h.2⟩

theorem ne_return_of_isPlain {c : Char} (h : isPlain c = true) : c ≠ '\r' := by
  rintro rfl
  simp [isPlain] at h

/-! ## Runs of quotes -/

theorem longestRun_mono (x : Char) (cs : List Char) {run more : Nat} (h : run ≤ more) :
    longestRun x run cs ≤ longestRun x more cs := by
  induction cs generalizing run more with
  | nil => exact h
  | cons c cs ih =>
    rw [longestRun, longestRun]
    split
    · exact ih (by omega)
    · omega

theorem le_longestRun (x : Char) (run : Nat) (cs : List Char) : run ≤ longestRun x run cs := by
  induction cs generalizing run with
  | nil => exact le_rfl
  | cons c cs ih =>
    rw [longestRun]
    split
    · exact (Nat.le_succ run).trans (ih _)
    · exact le_max_left _ _

theorem longestRun_tail (x c : Char) (cs : List Char) :
    longestRun x 0 cs ≤ longestRun x 0 (c :: cs) := by
  rw [longestRun]
  split
  · exact longestRun_mono x cs (by omega)
  · exact le_max_right _ _

theorem not_mem_of_longestRun {x : Char} {cs : List Char} (h : longestRun x 0 cs = 0) :
    x ∉ cs := by
  induction cs with
  | nil => simp
  | cons c cs ih =>
    have htail := longestRun_tail x c cs
    intro hmem
    rcases List.mem_cons.1 hmem with rfl | hmem
    · rw [longestRun, if_pos (beq_self_eq_true x)] at h
      have hle := le_longestRun x (0 + 1) cs
      omega
    · exact ih (by omega) hmem

/-- The run at the front is no longer than the longest one. -/
theorem leads_of_longestRun (x : Char) (cs : List Char) :
    ∃ run tail, Leads x cs run tail ∧ run ≤ longestRun x 0 cs := by
  have hrun : ∀ start, ∃ run tail, Leads x cs run tail ∧ start + run ≤ longestRun x start cs := by
    induction cs with
    | nil => exact fun start => ⟨0, [], ⟨rfl, by simp⟩, le_rfl⟩
    | cons c cs ih =>
      intro start
      rw [longestRun]
      -- A character of the kind goes on with the run; another one starts it anew.
      split
      · rename_i hc
        obtain rfl := eq_of_beq hc
        obtain ⟨run, tail, hleads, hle⟩ := ih (start + 1)
        refine ⟨run + 1, tail, ⟨?_, hleads.stop⟩, by omega⟩
        rw [List.replicate_succ, List.cons_append, ← hleads.eq]
      · rename_i hc
        exact ⟨0, c :: cs, ⟨rfl, by simpa using hc⟩, le_max_left _ _⟩
  obtain ⟨run, tail, hleads, hle⟩ := hrun 0
  exact ⟨run, tail, hleads, by omega⟩

theorem multilineLiteralBody?_closing {cs extra rest done : List Char} {room : Nat}
    (h : closing? '\'' cs = some (extra, rest)) :
    multilineLiteralBody? (room + 1) done cs = some (done.reverse ++ extra, rest) := by
  cases cs with
  | nil => simp [closing?] at h
  | cons c cs => simp only [multilineLiteralBody?, h]

/-- The body of a multi-line literal string reads back. -/
theorem multilineLiteralBody?_append {cs rest done : List Char} {room : Nat}
    (hrest : ∀ c ∈ rest.head?, c ≠ '\'') (hruns : longestRun '\'' 0 cs ≤ 2)
    (hplain : ∀ c ∈ cs, isControl c = false) (hroom : cs.length < room) :
    multilineLiteralBody? room done (cs ++ '\'' :: '\'' :: '\'' :: rest) =
      some (done.reverse ++ cs, rest) := by
  induction cs generalizing room done with
  | nil =>
    obtain ⟨room, rfl⟩ := Nat.exists_eq_add_one_of_ne_zero (Nat.ne_of_gt (Nat.zero_lt_of_lt hroom))
    have hleads : Leads '\'' [] 0 [] := ⟨rfl, by simp⟩
    exact multilineLiteralBody?_closing (closing?_append hleads (by omega) hrest)
  | cons c cs ih =>
    obtain ⟨room, rfl⟩ := Nat.exists_eq_add_one_of_ne_zero (Nat.ne_of_gt (Nat.zero_lt_of_lt hroom))
    obtain ⟨run, tail, hleads, hle⟩ := leads_of_longestRun '\'' (c :: cs)
    have hclosing := closing?_append hleads (by omega) hrest
    -- The same cases as for the escaped form, but nothing is escaped.
    by_cases hnil : tail = []
    · rw [if_pos hnil] at hclosing
      exact multilineLiteralBody?_closing hclosing
    · rw [if_neg hnil] at hclosing
      have hdone : done.reverse ++ c :: cs = (c :: done).reverse ++ cs := by simp
      have hruns' := (longestRun_tail '\'' c cs).trans hruns
      have hplain' : ∀ x ∈ cs, isControl x = false := fun x hx =>
        hplain x (List.mem_cons_of_mem _ hx)
      rw [hdone, List.cons_append, multilineLiteralBody?]
      rw [List.cons_append] at hclosing
      rw [hclosing]
      by_cases hfeed : c = '\n'
      · subst hfeed
        exact ih hruns' hplain' (by simpa using hroom)
      · have hc := isPlain_of_not_isControl (hplain c (by simp)) hfeed
        have hnewline : newline? (c :: (cs ++ '\'' :: '\'' :: '\'' :: rest)) = none := by
          simp [newline?, hfeed, ne_return_of_isPlain hc]
        rw [hnewline]
        simp only [hc, if_true]
        exact ih hruns' hplain' (by simpa using hroom)

/-! ## The four forms -/

theorem string?_quote {cs : List Char} (h : ∀ after, cs ≠ '"' :: '"' :: after) :
    string? ('"' :: cs) =
      (basicBody? (cs.length + 1) [] cs).map fun e => (String.ofList e.1, e.2) := by
  unfold string?
  split
  · rename_i after heq
    exact absurd (List.cons.inj heq).2 (h after)
  · rename_i heq
    simp at heq
  · rename_i heq
    rw [(List.cons.inj heq).2]
  · rename_i heq
    simp at heq
  · rename_i hone _
    exact absurd rfl (hone cs)

theorem string?_apostrophe {cs : List Char} (h : ∀ after, cs ≠ '\'' :: '\'' :: after) :
    string? ('\'' :: cs) = (literalBody? cs).map fun e => (String.ofList e.1, e.2) := by
  unfold string?
  split
  · rename_i heq
    simp at heq
  · rename_i after heq
    exact absurd (List.cons.inj heq).2 (h after)
  · rename_i heq
    simp at heq
  · rename_i heq
    rw [(List.cons.inj heq).2]
  · rename_i hone
    exact absurd rfl (hone cs)

/-- A text in the escaped one-line form reads back. -/
theorem string?_basic (cs : List Char) {rest : List Char} (hrest : ∀ c ∈ rest.head?, c ≠ '"') :
    string? ((writeString .basic cs).toList ++ rest) = some (String.ofList cs, rest) := by
  have htext : (writeString .basic cs).toList ++ rest =
      '"' :: (escapeBody false 0 0 cs ++ '"' :: rest) := by
    simp [writeString]
  rw [htext, string?_quote, basicBody?_escapeBody (by simp)]
  · rfl
  · -- The body does not begin with a quote, and an empty one is not followed by one.
    intro after heq
    cases cs with
    | nil =>
      obtain ⟨-, htail⟩ := List.cons.inj heq
      exact hrest '"' (by simp [htail]) rfl
    | cons c cs =>
      rcases escapeBody_cons false 0 0 c cs with ⟨-, hrun, -⟩ | ⟨-, hline, -⟩ | ⟨hescape, hbody⟩ |
        ⟨-, hquote, -, -, -, hbody⟩
      · omega
      · simp at hline
      · obtain ⟨x, body, hchunk, -⟩ := hescape
        simp [hbody, hchunk] at heq
      · simp [hbody, hquote] at heq

/-- A text without apostrophes and control characters reads back from the literal form. -/
theorem string?_literal {cs rest : List Char} (hquote : '\'' ∉ cs)
    (hplain : ∀ c ∈ cs, isPlain c = true) (hrest : ∀ c ∈ rest.head?, c ≠ '\'') :
    string? ((writeString .literal cs).toList ++ rest) = some (String.ofList cs, rest) := by
  have htext : (writeString .literal cs).toList ++ rest = '\'' :: (cs ++ '\'' :: rest) := by
    simp [writeString]
  rw [htext, string?_apostrophe, literalBody?_append hquote hplain]
  · rfl
  · intro after heq
    cases cs with
    | nil =>
      obtain ⟨-, htail⟩ := List.cons.inj heq
      exact hrest '\'' (by simp [htail]) rfl
    | cons c cs =>
      obtain ⟨rfl, -⟩ := List.cons.inj heq
      simp at hquote

/-- The line feed that a multi-line string starts with is no part of it, and without one nothing
is dropped. -/
theorem dropNewline_start (cs : List Char) {body : List Char}
    (hbody : cs.contains '\n' = false → ∀ c ∈ body.head?, c ≠ '\n' ∧ c ≠ '\r') :
    dropNewline ((if cs.contains '\n' then "\n" else "").toList ++ body) = body := by
  cases hfeed : cs.contains '\n' with
  | true => rfl
  | false =>
    have hhead := hbody hfeed
    cases body with
    | nil => rfl
    | cons c body =>
      obtain ⟨hfeed, hreturn⟩ := hhead c rfl
      simp [dropNewline, newline?, hfeed, hreturn]

/-- A text in the escaped multi-line form reads back. -/
theorem string?_multiline (cs : List Char) {rest : List Char} (hrest : ∀ c ∈ rest.head?, c ≠ '"') :
    string? ((writeString .multiline cs).toList ++ rest) = some (String.ofList cs, rest) := by
  have htext : (writeString .multiline cs).toList ++ rest =
      '"' :: '"' :: '"' :: ((if cs.contains '\n' then "\n" else "").toList ++
        (escapeBody true 2 0 cs ++ '"' :: '"' :: '"' :: rest)) := by
    simp [writeString]
  have hhead : cs.contains '\n' = false →
      ∀ c ∈ (escapeBody true 2 0 cs ++ '"' :: '"' :: '"' :: rest).head?, c ≠ '\n' ∧ c ≠ '\r' := by
    intro hfeed
    cases cs with
    | nil => simp [escapeBody]
    | cons c cs =>
      -- A line feed in front would be dropped by the reader, and the text has none.
      rcases escapeBody_cons true 2 0 c cs with ⟨-, -, hbody⟩ | ⟨rfl, -, -⟩ | ⟨hescape, hbody⟩ |
        ⟨-, -, -, hc, hreturn, hbody⟩
      · simp [hbody]
      · simp at hfeed
      · obtain ⟨x, body, hchunk, -⟩ := hescape
        simp [hbody, hchunk]
      · simp [hbody, hc, hreturn]
  rw [htext, string?]
  simp only [dropNewline_start cs hhead]
  rw [multilineBody?_escapeBody hrest (by omega) (by simp)]
  rfl

/-- A text without control characters and long runs of apostrophes reads back from the literal
multi-line form. -/
theorem string?_multilineLiteral {cs rest : List Char} (hruns : longestRun '\'' 0 cs ≤ 2)
    (hplain : ∀ c ∈ cs, isControl c = false) (hrest : ∀ c ∈ rest.head?, c ≠ '\'') :
    string? ((writeString .multilineLiteral cs).toList ++ rest) = some (String.ofList cs, rest) := by
  have htext : (writeString .multilineLiteral cs).toList ++ rest =
      '\'' :: '\'' :: '\'' :: ((if cs.contains '\n' then "\n" else "").toList ++
        (cs ++ '\'' :: '\'' :: '\'' :: rest)) := by
    simp [writeString]
  have hhead : cs.contains '\n' = false →
      ∀ c ∈ (cs ++ '\'' :: '\'' :: '\'' :: rest).head?, c ≠ '\n' ∧ c ≠ '\r' := by
    intro hfeed
    cases cs with
    | nil => simp
    | cons c cs =>
      have hc : c ≠ '\n' := by
        rintro rfl
        simp at hfeed
      simpa using ⟨hc, ne_return_of_isPlain (isPlain_of_not_isControl (hplain c (by simp)) hc)⟩
  rw [htext, string?]
  simp only [dropNewline_start cs hhead]
  rw [multilineLiteralBody?_append hrest hruns hplain (by simp)]
  rfl

/-- A form without escapes is chosen only for a text that it can hold. -/
theorem stringForm_spec (cs : List Char) :
    (stringForm cs = .literal → '\'' ∉ cs ∧ ∀ c ∈ cs, isPlain c = true) ∧
      (stringForm cs = .multilineLiteral →
        longestRun '\'' 0 cs ≤ 2 ∧ ∀ c ∈ cs, isControl c = false) := by
  have hcontrol : (!cs.any isControl) = true → ∀ c ∈ cs, isControl c = false := by
    intro h
    simpa using h
  unfold stringForm
  refine ⟨fun h => ?_, fun h => ?_⟩ <;> dsimp only at h
  · split_ifs at h with h1 h2
    simp only [Bool.and_eq_true, beq_iff_eq, Bool.not_eq_true'] at h2
    obtain ⟨⟨hnone, hruns⟩, hfeed⟩ := h2
    refine ⟨not_mem_of_longestRun hruns, fun c hc => ?_⟩
    refine isPlain_of_not_isControl (hcontrol (by simpa using hnone) c hc) ?_
    rintro rfl
    simp [hc] at hfeed
  · split_ifs at h with h1 h2 h3 h4
    simp only [Bool.and_eq_true, decide_eq_true_eq] at h4
    exact ⟨h4.2, hcontrol h4.1⟩

/-- A text reads back from its plainest form. -/
theorem string?_stringText (s : String) {rest : List Char}
    (hrest : ∀ c ∈ rest.head?, c ≠ '"' ∧ c ≠ '\'') :
    string? ((stringText s).toList ++ rest) = some (s, rest) := by
  have hdouble : ∀ c ∈ rest.head?, c ≠ '"' := fun c hc => (hrest c hc).1
  have hsingle : ∀ c ∈ rest.head?, c ≠ '\'' := fun c hc => (hrest c hc).2
  obtain ⟨hliteral, hmultiline⟩ := stringForm_spec s.toList
  have hs : String.ofList s.toList = s := String.ofList_toList
  rw [stringText, ← hs]
  simp only [String.toList_ofList]
  cases hform : stringForm s.toList with
  | basic => exact string?_basic _ hdouble
  | literal =>
    obtain ⟨hquote, hplain⟩ := hliteral hform
    exact string?_literal hquote hplain hsingle
  | multiline => exact string?_multiline _ hdouble
  | multilineLiteral =>
    obtain ⟨hruns, hplain⟩ := hmultiline hform
    exact string?_multilineLiteral hruns hplain hsingle

theorem exists_stringText (s : String) :
    ∃ c tail, (stringText s).toList = c :: tail ∧ (c = '"' ∨ c = '\'') := by
  unfold stringText
  cases stringForm s.toList with
  | basic => exact ⟨'"', _, by simp [writeString]; rfl, .inl rfl⟩
  | literal => exact ⟨'\'', _, by simp [writeString]; rfl, .inr rfl⟩
  | multiline => exact ⟨'"', _, by simp [writeString]; rfl, .inl rfl⟩
  | multilineLiteral => exact ⟨'\'', _, by simp [writeString]; rfl, .inr rfl⟩

/-! ## Keys -/

theorem keyPart?_bare {cs rest : List Char} (hne : cs ≠ []) (hname : ∀ c ∈ cs, isNameChar c = true)
    (hrest : ∀ c ∈ rest.head?, isNameChar c = false) :
    keyPart? (cs ++ rest) = some (String.ofList cs, rest) := by
  obtain ⟨c, cs, rfl⟩ := List.exists_cons_of_ne_nil hne
  have hc := hname c (by simp)
  have hspan : (c :: cs ++ rest).span isNameChar = (c :: cs, rest) :=
    span_eq_iff.2 ⟨rfl, hname, hrest⟩
  unfold keyPart?
  split
  · rename_i heq
    obtain ⟨rfl, -⟩ := List.cons.inj heq
    simp [isNameChar] at hc
  · rename_i heq
    obtain ⟨rfl, -⟩ := List.cons.inj heq
    simp [isNameChar] at hc
  · simp only [hspan]
    rfl

theorem keyPart?_basic (cs rest : List Char) :
    keyPart? ((writeString .basic cs).toList ++ rest) = some (String.ofList cs, rest) := by
  have htext : (writeString .basic cs).toList ++ rest =
      '"' :: (escapeBody false 0 0 cs ++ '"' :: rest) := by
    simp [writeString]
  rw [htext, keyPart?, basicBody?_escapeBody (by simp)]
  rfl

theorem keyPart?_literal {cs rest : List Char} (hquote : '\'' ∉ cs)
    (hplain : ∀ c ∈ cs, isPlain c = true) :
    keyPart? ((writeString .literal cs).toList ++ rest) = some (String.ofList cs, rest) := by
  have htext : (writeString .literal cs).toList ++ rest = '\'' :: (cs ++ '\'' :: rest) := by
    simp [writeString]
  rw [htext, keyPart?, literalBody?_append hquote hplain]
  rfl

/-- A key reads back from its text. -/
theorem keyPart?_keyText (key : String) {rest : List Char}
    (hrest : ∀ c ∈ rest.head?, isNameChar c = false) :
    keyPart? ((keyText key).toList ++ rest) = some (key, rest) := by
  have hkey : String.ofList key.toList = key := String.ofList_toList
  unfold keyText
  dsimp only
  -- A bare key, an escaped one, or one between apostrophes.
  split
  · rename_i hbare
    simp only [Bool.and_eq_true, Bool.not_eq_true', List.isEmpty_eq_false_iff,
      List.all_eq_true] at hbare
    rw [keyPart?_bare hbare.1 hbare.2 hrest, hkey]
  · split
    · rw [keyPart?_basic, hkey]
    · split
      · rename_i hliteral
        simp only [Bool.and_eq_true, Bool.not_eq_true', List.any_eq_false, Bool.or_eq_true,
          not_or, beq_iff_eq] at hliteral
        rw [keyPart?_literal, hkey]
        · simpa using hliteral.2
        · intro c hc
          obtain ⟨hcontrol, hfeed⟩ := hliteral.1 c hc
          exact isPlain_of_not_isControl (by simpa using hcontrol) hfeed
      · rw [keyPart?_basic, hkey]

/-- A character with which the text of a key may begin. -/
def StartsKey (c : Char) : Prop := isNameChar c = true ∨ c = '"' ∨ c = '\''

theorem exists_keyText (key : String) :
    ∃ c tail, (keyText key).toList = c :: tail ∧ StartsKey c := by
  have hbasic : ∀ cs, ∃ tail, (writeString .basic cs).toList = '"' :: tail :=
    fun cs => ⟨_, by simp [writeString]; rfl⟩
  have hliteral : ∀ cs, ∃ tail, (writeString .literal cs).toList = '\'' :: tail :=
    fun cs => ⟨_, by simp [writeString]; rfl⟩
  obtain ⟨basic, hbasic⟩ := hbasic key.toList
  obtain ⟨literal, hliteral⟩ := hliteral key.toList
  unfold keyText
  dsimp only
  split
  · rename_i hbare
    simp only [Bool.and_eq_true, Bool.not_eq_true', List.isEmpty_eq_false_iff,
      List.all_eq_true] at hbare
    obtain ⟨c, tail, heq⟩ := List.exists_cons_of_ne_nil hbare.1
    exact ⟨c, tail, heq, .inl (hbare.2 c (by simp [heq]))⟩
  · split
    · exact ⟨_, _, hbasic, .inr (.inl rfl)⟩
    · split
      · exact ⟨_, _, hliteral, .inr (.inr rfl)⟩
      · exact ⟨_, _, hbasic, .inr (.inl rfl)⟩

/-- What begins a key begins neither a header nor a comment, and is no blank. -/
theorem StartsKey.ne {c : Char} (h : StartsKey c) :
    isSpace c = false ∧ c ≠ '\n' ∧ c ≠ '\r' ∧ c ≠ '#' ∧ c ≠ '[' ∧ c ≠ '\ufeff' := by
  have hname : ∀ x, isNameChar x = false → x ≠ '"' → x ≠ '\'' → c ≠ x := by
    rintro x hx hquote hliteral rfl
    rcases h with h | h | h
    · simp [hx] at h
    · exact hquote h
    · exact hliteral h
  have hspace := hname ' ' rfl (by decide) (by decide)
  have htab := hname '\t' rfl (by decide) (by decide)
  refine ⟨by simp [isSpace, hspace, htab], ?_, ?_, ?_, ?_, ?_⟩
  all_goals exact hname _ rfl (by decide) (by decide)

theorem skipSpaces_keyText (key : String) (rest : List Char) :
    skipSpaces ((keyText key).toList ++ rest) = (keyText key).toList ++ rest := by
  obtain ⟨c, tail, heq, hc⟩ := exists_keyText key
  rw [heq, List.cons_append, skipSpaces, List.dropWhile_cons_of_neg (by simp [hc.ne.1])]

/-- The path of a header reads back. -/
theorem keyParts?_headerPath {path : List String} (hne : path ≠ []) {rest : List Char} {room : Nat}
    (hroom : path.length ≤ room) (hname : ∀ c ∈ rest.head?, isNameChar c = false)
    (hdot : ∀ c ∈ (skipSpaces rest).head?, c ≠ '.') :
    keyParts? room ((headerPath path).toList ++ rest) = some (path, skipSpaces rest) := by
  induction path generalizing room with
  | nil => exact absurd rfl hne
  | cons key path ih =>
    obtain ⟨room, rfl⟩ := Nat.exists_eq_add_one_of_ne_zero (Nat.ne_of_gt (Nat.zero_lt_of_lt hroom))
    cases path with
    | nil =>
      -- The last key has no point behind it.
      have htext : (headerPath [key]).toList = (keyText key).toList := rfl
      rw [htext, keyParts?, skipSpaces_keyText, keyPart?_keyText key hname]
      simp only [Option.bind_eq_bind, Option.bind_some]
      split
      · rename_i heq
        exact absurd rfl (hdot '.' (by simp [heq]))
      · rfl
    | cons next path =>
      -- The point is read, and the other keys follow.
      have htext : (headerPath (key :: next :: path)).toList ++ rest =
          (keyText key).toList ++ '.' :: ((headerPath (next :: path)).toList ++ rest) := by
        simp [headerPath, joinText]
      have hpoint : ∀ after, skipSpaces ('.' :: after) = '.' :: after := fun _ => rfl
      have hmore : keyParts? room ((headerPath (next :: path)).toList ++ rest) =
          some (next :: path, skipSpaces rest) := ih (by simp) (by simpa using hroom)
      rw [htext, keyParts?, skipSpaces_keyText, keyPart?_keyText key (by simp [isNameChar])]
      simp only [Option.bind_eq_bind, Option.bind_some, hpoint, hmore]

theorem length_headerPath (path : List String) : path.length ≤ (headerPath path).toList.length := by
  induction path with
  | nil => simp
  | cons key path ih =>
    obtain ⟨c, tail, heq, -⟩ := exists_keyText key
    cases path with
    | nil =>
      have htext : (headerPath [key]).toList = (keyText key).toList := rfl
      simp [htext, heq]
    | cons next path =>
      have htext : (headerPath (key :: next :: path)).toList =
          (keyText key).toList ++ '.' :: (headerPath (next :: path)).toList := by
        simp [headerPath, joinText]
      rw [htext, heq]
      simp only [List.length_cons, List.cons_append, List.length_append] at ih ⊢
      omega

/-- The path of a header reads back as a dotted key, if it is not too long. -/
theorem key?_headerPath {path : List String} (hne : path ≠ []) (hlimit : path.length ≤ nestingLimit)
    {rest : List Char} (hname : ∀ c ∈ rest.head?, isNameChar c = false)
    (hdot : ∀ c ∈ (skipSpaces rest).head?, c ≠ '.') :
    key? ((headerPath path).toList ++ rest) = some (path, skipSpaces rest) := by
  have hlength := length_headerPath path
  rw [key?, keyParts?_headerPath hne (by simp; omega) hname hdot]
  simp only [Option.bind_eq_bind, Option.bind_some]
  rw [if_neg (by omega)]

end DocSite.Toml
