import DocSite.Path
import Mathlib.Data.List.Lex
import Mathlib.Data.Prod.Lex
import Mathlib.Data.String.Basic

/-!
# The order of paths

  Paths are ordered by their components: the first one that differs decides, and a
  path comes before all that lie below it. Of two components, the kind decides, and
  of two names their characters. This is a linear order, so a list of paths is
  sorted in one way only.
-/

namespace DocSite

namespace Component

/-- What decides between components: the kind, and for names the text. -/
def key : Component → ℕ ×ₗ String
  | .name text => toLex (rank (.name text), text)
  | c => toLex (c.rank, "")

theorem key_injective : Function.Injective key := by
  intro a b h
  cases a <;> cases b <;> simp [key, rank] at h ⊢
  exact h

instance : LinearOrder Component := LinearOrder.lift' key key_injective

theorem less_iff_lt (a b : Component) : a.less b = true ↔ a < b := by
  change _ ↔ a.key < b.key
  cases a <;> cases b <;> simp [less, key, rank, Prod.Lex.toLex_lt_toLex]

end Component

namespace Path

theorem componentsLess_iff_lt (as bs : List Component) : componentsLess as bs = true ↔ as < bs := by
  fun_induction componentsLess as bs with
  | case1 => simp
  | case2 b bs => simp
  | case3 a as => simp
  | case4 a as b bs ih =>
    rw [List.cons_lt_cons_iff, Bool.or_eq_true, Bool.and_eq_true, Component.less_iff_lt, ih,
      beq_iff_eq]

theorem less_iff_lt (p q : Path) : p.less q = true ↔ p.components < q.components :=
  componentsLess_iff_lt p.components q.components

end Path

end DocSite
