import DocSite.Diagnostics
import DocSite.Proofs.Text

/-!
# When a check reports no error

  The errors of a collection are those of its parts, in order. So a check is free
  of errors exactly when each of its parts is, and its errors of one kind, which
  are told by how their messages begin, are those of its parts too.
-/

namespace DocSite.Diagnostics

@[simp] theorem errors_none : none.errors = [] := rfl

@[simp] theorem errors_error (field : FieldPath) (message : String) :
    (error field message).errors = [{ field, message }] := rfl

@[simp] theorem errors_errorWithHint (field : FieldPath) (message hint : String) :
    (errorWithHint field message hint).errors = [{ field, message, hint := some hint }] := rfl

@[simp] theorem errors_warning (field : FieldPath) (message : String) :
    (warning field message).errors = [] := rfl

theorem errors_when (condition : Bool) (d : Diagnostics) :
    (when condition d).errors = if condition then d.errors else [] := by
  cases condition <;> rfl

@[simp] theorem errors_when_eq_nil_iff {condition : Bool} {d : Diagnostics} :
    (when condition d).errors = [] ↔ (condition = true → d.errors = []) := by
  cases condition <;> simp [errors_when]

/-- What holds of the errors of a check under a condition. -/
theorem forall_errors_when {condition : Bool} {d : Diagnostics} {p : Diagnostic → Prop} :
    (∀ e ∈ (when condition d).errors, p e) ↔ (condition = true → ∀ e ∈ d.errors, p e) := by
  cases condition <;> simp [errors_when]

@[simp] theorem errors_concat (ds : List Diagnostics) :
    (concat ds).errors = ds.flatMap Diagnostics.errors := by
  induction ds with
  | nil => rfl
  | cons d rest ih =>
    have hcons : concat (d :: rest) = d ++ concat rest := rfl
    rw [hcons, errors_append, ih, List.flatMap_cons]

/-- The check of a list is free of errors exactly if that of each item is. -/
theorem errors_forItems_eq_nil_iff {α : Type} {items : List α} {f : Nat → α → Diagnostics} :
    (forItems items f).errors = [] ↔ ∀ i x, items[i]? = some x → (f i x).errors = [] := by
  rw [forItems, errors_concat, List.flatMap_eq_nil_iff, List.forall_mem_map]
  constructor
  · intro h i x hx
    exact h (x, i) (List.mk_mem_zipIdx_iff_getElem?.2 hx)
  · rintro h ⟨x, i⟩ hx
    exact h i x (List.mk_mem_zipIdx_iff_getElem?.1 hx)

theorem errors_append_eq_nil_iff {a b : Diagnostics} :
    (a ++ b).errors = [] ↔ a.errors = [] ∧ b.errors = [] := by
  simp

/-! ## Errors of one kind -/

/-- The errors whose messages begin in a given way, in order. -/
def errorsLike (start : String) (d : Diagnostics) : List Diagnostic :=
  d.errors.filter fun e => Text.startsWith start.toList e.message.toList

section

variable (start : String)

@[simp] theorem errorsLike_none : none.errorsLike start = [] := rfl

@[simp] theorem errorsLike_append (a b : Diagnostics) :
    (a ++ b).errorsLike start = a.errorsLike start ++ b.errorsLike start := by
  rw [errorsLike, errors_append, List.filter_append]
  rfl

@[simp] theorem errorsLike_concat (ds : List Diagnostics) :
    (concat ds).errorsLike start = ds.flatMap (errorsLike start) := by
  rw [errorsLike, errors_concat, List.filter_flatMap]
  rfl

/-- An error that begins in the given way is of that kind. -/
theorem errorsLike_error (field : FieldPath) (rest : String) :
    (error field (start ++ rest)).errorsLike start = [{ field, message := start ++ rest }] := by
  rw [errorsLike, errors_error, List.filter_eq_self]
  intro e he
  obtain rfl := List.mem_singleton.1 he
  rw [Text.startsWith_iff, String.toList_append]
  exact List.prefix_append _ _

end

section

variable {start : String}

theorem errorsLike_when {d : Diagnostics} (h : d.errorsLike start = []) (condition : Bool) :
    (when condition d).errorsLike start = [] := by
  cases condition with
  | false => rfl
  | true => exact h

theorem errorsLike_forItems {α : Type} {items : List α} {f : Nat → α → Diagnostics}
    (h : ∀ i x, (f i x).errorsLike start = []) : (forItems items f).errorsLike start = [] := by
  rw [forItems, errorsLike_concat, List.flatMap_eq_nil_iff, List.forall_mem_map]
  intro e _
  exact h e.2 e.1

/-- An error that begins with another character is of another kind. -/
theorem errorsLike_of_head {d : Diagnostics} {e : Diagnostic} (hd : d.errors = [e]) {c other : Char}
    (hstart : start.toList.head? = some c) (h : e.message.toList.head? = some other)
    (hne : c ≠ other) : d.errorsLike start = [] := by
  have hbegins : Text.startsWith start.toList e.message.toList = false :=
    Text.startsWith_of_head hstart h hne
  rw [errorsLike, hd, List.filter_cons_of_neg (by simp [hbegins]), List.filter_nil]

end

end DocSite.Diagnostics
