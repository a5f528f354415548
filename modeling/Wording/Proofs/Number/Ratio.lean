import Wording.Number.Decimal
import Mathlib.Algebra.Order.Field.Power
import Mathlib.Data.Rat.Cast.Order
import Mathlib.Tactic.FieldSimp
import Mathlib.Tactic.Linarith
import Mathlib.Tactic.Positivity
import Mathlib.Tactic.Ring

/-!
Fractions as rational numbers. Comparing fractions compares their ratios, and the fractions that the arithmetic of
binary numbers scales by powers of two and of ten have the scaled ratios.
-/

set_option autoImplicit false

namespace Wording.Number

/-- The value of a fraction. -/
def ratio (f : Nat × Nat) : ℚ := f.1 / f.2

theorem ratio_scaledByTen (n : Nat) (power : Int) :
    ratio (scaledByTen n power) = n * 10 ^ power ∧ 0 < (scaledByTen n power).2 := by
  cases power with
  | ofNat k => simp [ratio, scaledByTen]
  | negSucc k => simp [ratio, scaledByTen, zpow_negSucc, div_eq_mul_inv]

theorem ratio_fraction (significand : Nat) (exponent : Int) :
    ratio (Binary.fraction significand exponent) = significand * 2 ^ exponent ∧
      0 < (Binary.fraction significand exponent).2 := by
  cases exponent with
  | ofNat k => simp [ratio, Binary.fraction]
  | negSucc k => simp [ratio, Binary.fraction, zpow_negSucc, div_eq_mul_inv]

theorem ratio_dividedByPower (num den : Nat) (hden : 0 < den) (exponent : Int) :
    ratio (Binary.dividedByPower num den exponent) = num / den / 2 ^ exponent ∧
      0 < (Binary.dividedByPower num den exponent).2 := by
  cases exponent with
  | ofNat k => simp [ratio, Binary.dividedByPower, div_div, hden]
  | negSucc k => simp [ratio, Binary.dividedByPower, zpow_negSucc, div_eq_mul_inv, mul_right_comm, hden]

theorem num_pos_of_ratio_pos {num den : Nat} (hden : 0 < den) (h : (0 : ℚ) < num / den) : 0 < num := by
  rw [div_pos_iff_of_pos_right (by exact_mod_cast hden)] at h
  exact_mod_cast h

/-- Comparing fractions compares their values. -/
theorem fractionLt_iff {f g : Nat × Nat} (hf : 0 < f.2) (hg : 0 < g.2) :
    fractionLt f g = true ↔ ratio f < ratio g := by
  rw [fractionLt, decide_eq_true_eq, ratio, ratio, div_lt_div_iff₀ (by exact_mod_cast hf) (by exact_mod_cast hg)]
  norm_cast

end Wording.Number
