import Wording.Number.Quantity
import Wording.Proofs.Number.Ratio

/-!
The values of finite quantities as rational numbers. Finite quantities are compared by their values, whole or binary.
-/

set_option autoImplicit false

namespace Wording.Number

theorem Binary.signedFraction_den_pos (negative : Bool) (significand : Nat) (exponent : Int) :
    0 < (Binary.signedFraction negative significand exponent).2 :=
  (ratio_fraction significand exponent).2

namespace Quantity

/-- That a quantity is a finite one. -/
def IsFinite (q : Quantity) : Prop := q.finite?.isSome = true

instance : DecidablePred IsFinite := fun _ => inferInstanceAs (Decidable (_ = true))

/-- The value of a finite quantity. -/
def value (q : Quantity) : ℚ := q.finite?.elim 0 fun f => f.1 / f.2

variable {a b : Quantity}

theorem IsFinite.exists_fraction (h : a.IsFinite) :
    ∃ (n : Int) (d : Nat), 0 < d ∧ a.finite? = some (n, d) ∧ a.value = n / d := by
  obtain ⟨⟨n, d⟩, hfraction⟩ := Option.isSome_iff_exists.mp h
  refine ⟨n, d, ?_, hfraction, by rw [value, hfraction, Option.elim_some]⟩
  cases a with
  | whole n =>
    cases hfraction
    exact Nat.one_pos
  | binary x =>
    cases x with
    | finite negative significand exponent =>
      rw [finite?, Option.some.injEq] at hfraction
      have hpos := Binary.signedFraction_den_pos negative significand exponent
      rwa [hfraction] at hpos
    | infinite negative => cases hfraction
    | undefined => cases hfraction

theorem isFinite_whole (n : Int) : (whole n).IsFinite := rfl

@[simp]
theorem value_whole (n : Int) : (whole n).value = n := by
  simp [value, finite?]

/-- Finite quantities are compared by their values. -/
theorem lt_iff (ha : a.IsFinite) (hb : b.IsFinite) : a.lt b = true ↔ a.value < b.value := by
  obtain ⟨n, d, hd, hfraction, hvalue⟩ := ha.exists_fraction
  obtain ⟨n', d', hd', hfraction', hvalue'⟩ := hb.exists_fraction
  rw [hvalue, hvalue', div_lt_div_iff₀ (by exact_mod_cast hd) (by exact_mod_cast hd')]
  simp only [lt, hfraction, hfraction', decide_eq_true_eq]
  norm_cast

theorem any_num_eq_zero_iff (h : a.IsFinite) :
    (a.finite?.any fun f => decide (f.1 = 0)) = true ↔ a.value = 0 := by
  obtain ⟨n, d, hd, hfraction, hvalue⟩ := h.exists_fraction
  have hden : (d : ℚ) ≠ 0 := by exact_mod_cast hd.ne'
  rw [hfraction, hvalue, div_eq_zero_iff, or_iff_left hden, Int.cast_eq_zero, Option.any_some, decide_eq_true_eq]

end Quantity

end Wording.Number
