import Wording.Number.Quantity
import Wording.Proofs.Number.Rounding

/-!
Shares in percent. A fraction that is not too large is rounded to a finite number, and its hundredfold as well. So the
share of a part is finite, unless the part is far beyond every count of things in a memory.
-/

set_option autoImplicit false

namespace Wording.Number

open Binary

theorem roundedQuotient_mem (num den : Nat) :
    num / den ≤ roundedQuotient num den ∧ roundedQuotient num den ≤ num / den + 1 := by
  simp only [roundedQuotient]
  split
  · omega
  · split
    · omega
    · split <;> omega

/-- A fraction below a number of 53 bits that is not too large is rounded to a finite number, whose exponent is not
greater. -/
theorem exists_ofFraction_eq_finite {num den : Nat} (hden : 0 < den) {bound : Int} (hleast : leastExponent < bound)
    (hgreatest : bound ≤ greatestExponent) (h : (num / den : ℚ) < 2 ^ 52 * 2 ^ bound) (negative : Bool) :
    ∃ significand exponent, ofFraction negative num den = .finite negative significand exponent ∧
      InFormat significand exponent ∧ exponent ≤ bound := by
  rcases Nat.eq_zero_or_pos num with rfl | hnum
  · exact ⟨0, leastExponent, rfl, ⟨by decide, le_rfl, by decide, fun _ => rfl⟩, hleast.le⟩
  obtain ⟨hchosenLeast, hbelow, habove⟩ := exponentOf_spec hnum hden
  have hchosen : exponentOf num den < bound := by
    rcases habove with hleastChosen | habove
    · rwa [hleastChosen]
    · by_contra hge
      have := two_zpow_le (not_lt.mp hge)
      linarith
  rw [ofFraction, if_neg hnum.ne']
  generalize exponentOf num den = chosen at *
  obtain ⟨hlow, hhigh⟩ :=
    roundedQuotient_mem (dividedByPower num den chosen).1 (dividedByPower num den chosen).2
  have hquotient : (dividedByPower num den chosen).1 / (dividedByPower num den chosen).2 < 2 ^ 53 := by
    rw [div_dividedByPower_lt_iff hden, Nat.cast_pow, Nat.cast_ofNat]
    exact hbelow
  simp only [Nat.pow_eq]
  split
  next hcarried =>
    rw [if_neg (by omega)]
    exact ⟨2 ^ 52, chosen + 1, rfl, ⟨by decide, by omega, by omega, fun hsmall => absurd hsmall (lt_irrefl _)⟩,
      by omega⟩
  next hbits =>
    rw [if_neg (by omega)]
    refine ⟨_, chosen, rfl, ⟨by omega, hchosenLeast, by omega, fun hsmall => ?_⟩, hchosen.le⟩
    refine habove.resolve_right fun hlarge => not_lt.mpr hlarge ?_
    have hfew := lt_of_le_of_lt hlow hsmall
    rwa [div_dividedByPower_lt_iff hden, Nat.cast_pow, Nat.cast_ofNat] at hfew

theorem isFinite_mul {first second : Nat} {firstExponent secondExponent : Int} (bound : Int)
    (hleast : leastExponent < bound) (hgreatest : bound ≤ greatestExponent)
    (h : (first * 2 ^ firstExponent * (second * 2 ^ secondExponent) : ℚ) < 2 ^ 52 * 2 ^ bound)
    (negative negative' : Bool) :
    ((Binary.finite negative first firstExponent).mul (.finite negative' second secondExponent)).IsFinite := by
  obtain ⟨hfirst, hfirstDen⟩ := ratio_fraction first firstExponent
  obtain ⟨hsecond, hsecondDen⟩ := ratio_fraction second secondExponent
  have hvalue : (((fraction first firstExponent).1 * (fraction second secondExponent).1 : Nat) /
      ((fraction first firstExponent).2 * (fraction second secondExponent).2 : Nat) : ℚ) < 2 ^ 52 * 2 ^ bound := by
    rw [Nat.cast_mul, Nat.cast_mul, mul_div_mul_comm, ← ratio, ← ratio, hfirst, hsecond]
    exact h
  obtain ⟨significand, exponent, hproduct, hformat, -⟩ :=
    exists_ofFraction_eq_finite (Nat.mul_pos hfirstDen hsecondDen) hleast hgreatest hvalue (negative != negative')
  have hmul : (Binary.finite negative first firstExponent).mul (.finite negative' second secondExponent) =
      .finite (negative != negative') significand exponent := hproduct
  rw [hmul]
  exact hformat

/-- The share of a part that is not too large is finite. -/
theorem exists_percentage_eq_finite {part : Nat} (h : part < 2 ^ 1000) (total : Nat) :
    ∃ x : Binary, percentage part total = .binary x ∧ x.IsFinite := by
  refine ⟨_, rfl, ?_⟩
  split
  next => exact ⟨by decide, le_rfl, by decide, fun _ => rfl⟩
  next htotal =>
    have hden : 0 < total := Nat.pos_of_ne_zero htotal
    have hquotient : (part / total : ℚ) < 2 ^ 52 * 2 ^ (948 : Int) := by
      calc (part / total : ℚ) ≤ part := div_le_self (Nat.cast_nonneg _) (by exact_mod_cast hden)
        _ < 2 ^ 1000 := by exact_mod_cast h
        _ = 2 ^ 52 * 2 ^ (948 : Int) := by rw [zpow_ofNat, ← pow_add]
    obtain ⟨significand, exponent, hfinite, hformat, hexponent⟩ :=
      exists_ofFraction_eq_finite hden (by decide) (by decide) hquotient false
    have hhundred : Binary.ofInt 100 = .finite false 0x19000000000000 (-46) := by decide +kernel
    rw [hfinite, hhundred]
    apply isFinite_mul 956 (by decide) (by decide)
    have hbits : (significand : ℚ) < 2 ^ 53 := by exact_mod_cast hformat.significand_lt
    have hpower : (2 : ℚ) ^ exponent ≤ 2 ^ (948 : Int) := two_zpow_le hexponent
    calc (significand * 2 ^ exponent * ((0x19000000000000 : Nat) * 2 ^ (-46 : Int)) : ℚ)
        = significand * 2 ^ exponent * 100 := by norm_num
      _ ≤ 2 ^ 53 * 2 ^ (948 : Int) * 100 := by gcongr
      _ < 2 ^ 53 * 2 ^ (948 : Int) * 2 ^ 7 := by gcongr; norm_num
      _ = 2 ^ 52 * 2 ^ (956 : Int) := by rw [zpow_ofNat, zpow_ofNat, ← pow_add, ← pow_add, ← pow_add]

end Wording.Number
