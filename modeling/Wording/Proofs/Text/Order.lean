import Mathlib.Data.Char
import Mathlib.Data.List.Lex
import Wording.Text.Basic

/-!
Code-point order is the order of lists of characters, so it is linear.
-/

set_option autoImplicit false

namespace Wording.Text

/-- Code-point order is the order of lists of characters. -/
theorem le_iff {a b : Text} : le a b = true ↔ a ≤ b := by
  rw [← not_lt]
  fun_induction le a b with
  | case1 b => simp only [List.not_lt_nil, not_false_eq_true]
  | case2 a as => simp only [List.nil_lt_cons, not_true_eq_false, Bool.false_eq_true]
  | case3 as b bs ih => simp only [ih, List.cons_lt_cons_iff, lt_irrefl, true_and, false_or]
  | case4 a as b bs h =>
    simp only [decide_eq_true_eq, List.cons_lt_cons_iff, Ne.symm h, false_and, or_false, not_lt]
    show a < b ↔ a ≤ b
    exact ⟨le_of_lt, fun hle => lt_of_le_of_ne hle h⟩

/-- What two texts have in common at their beginning does not matter for their order. -/
theorem append_lt_append_left_iff (common : Text) {x y : Text} : common ++ x < common ++ y ↔ x < y := by
  induction common with
  | nil => rfl
  | cons c common ih => rw [List.cons_append, List.cons_append, List.cons_lt_cons_self, ih]

/-- What is behind two different texts of one length does not matter for their order. -/
theorem append_lt_append {a b : Text} (hlength : a.length = b.length) (h : a < b) (x y : Text) : a ++ x < b ++ y := by
  induction a generalizing b with
  | nil =>
    rw [List.length_eq_zero_iff.mp hlength.symm] at h
    exact absurd h (lt_irrefl _)
  | cons c a ih =>
    obtain ⟨d, b, rfl⟩ := List.exists_cons_of_length_eq_add_one hlength.symm
    rw [List.cons_append, List.cons_append, List.cons_lt_cons_iff]
    rw [List.cons_lt_cons_iff] at h
    exact h.imp_right fun ⟨heq, hrest⟩ => ⟨heq, ih (Nat.succ.inj hlength) hrest⟩

end Wording.Text
