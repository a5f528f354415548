import Wording.Proofs.Number.Rounding
import Wording.Proofs.Text.Digits
import Mathlib.Data.List.Basic
import Mathlib.Data.Nat.Cast.Order.Field
import Mathlib.Data.List.TakeWhile

/-! # The fewest digits of a number

The fewest digits of a positive finite number are searched on decimal grids, from the coarsest on, for a point that is
rounded to the number. With seventeen digits the grid is finer than the interval of the values that are rounded to it
(`grid_fine`), so the search ends with a point, and whatever it ends with is rounded to the number because that is asked
of it (`roundsTo_of_nearestOnGrid?`).

That the grids have the digits that they should have rests on the power of ten above the number
(`decimalMagnitude_spec`), which is told by the digits of its whole part or, below one, of its reciprocal. What is
printed in the end leaves final zeros out, which changes no value.
-/

set_option autoImplicit false

namespace Wording.Number

/-! ## The power of ten above a number -/

/-- The decimal digits of a positive number tell the powers of ten around it. -/
theorem length_toDigits_bounds {n : Nat} (h : 0 < n) :
    (10 : ℚ) ^ ((Nat.toDigits 10 n).length - 1 : Int) ≤ n ∧ (n : ℚ) + 1 ≤ 10 ^ ((Nat.toDigits 10 n).length : Int) := by
  obtain ⟨k, hk⟩ := Nat.exists_eq_succ_of_ne_zero (Nat.length_toDigits_pos (b := 10) (n := n)).ne'
  have habove : n < 10 ^ (k + 1) := (Nat.length_toDigits_le_iff (by decide) k.succ_pos).mp hk.le
  have hbelow : 10 ^ k ≤ n := by
    cases k with
    | zero => exact h
    | succ j =>
      refine Nat.not_lt.mp fun hlt => ?_
      have hshort := (Nat.length_toDigits_le_iff (by decide) j.succ_pos).mpr hlt
      omega
  rw [hk, Nat.cast_succ, add_sub_cancel_right]
  exact ⟨by exact_mod_cast hbelow, by exact_mod_cast habove⟩

/-- The power of ten that is found for a positive fraction is the one just above it. -/
theorem decimalMagnitude_spec {num den : Nat} (hnum : 0 < num) (hden : 0 < den) :
    (10 : ℚ) ^ (decimalMagnitude (num, den) - 1) ≤ num / den ∧ (num / den : ℚ) < 10 ^ decimalMagnitude (num, den) := by
  have hnumQ : (0 : ℚ) < num := by exact_mod_cast hnum
  have hdenQ : (0 : ℚ) < den := by exact_mod_cast hden
  rw [decimalMagnitude]
  simp only
  split
  next hle =>
    obtain ⟨hlow, hhigh⟩ := length_toDigits_bounds (Nat.div_pos hle hden)
    have hquotient : (num : ℚ) < den * ((num / den : Nat) + 1) := by exact_mod_cast Nat.lt_mul_div_succ num hden
    refine ⟨hlow.trans Nat.cast_div_le, ?_⟩
    rw [div_lt_iff₀' hdenQ]
    exact hquotient.trans_le (mul_le_mul_of_nonneg_left hhigh hdenQ.le)
  next hlt =>
    -- The digits of the reciprocal, rounded up, less one.
    have hbelow : ((den + num - 1) / num - 1) * num < den := by
      have := Nat.div_mul_le_self (den + num - 1) num
      rw [Nat.sub_mul]
      omega
    have habove : den ≤ num * ((den + num - 1) / num - 1 + 1) := by
      have := Nat.lt_mul_div_succ (den + num - 1) hnum
      have : 1 ≤ (den + num - 1) / num := (Nat.one_le_div_iff hnum).mpr (by omega)
      rw [Nat.sub_add_cancel this]
      rw [Nat.mul_add] at *
      omega
    have hpositive : 0 < (den + num - 1) / num - 1 := by
      have : 2 ≤ (den + num - 1) / num := (Nat.le_div_iff_mul_le hnum).mpr (by omega)
      omega
    obtain ⟨hlow, hhigh⟩ := length_toDigits_bounds hpositive
    generalize (den + num - 1) / num - 1 = rest at *
    have hbelowQ : (rest * num : ℚ) < den := by exact_mod_cast hbelow
    have haboveQ : (den : ℚ) ≤ num * (rest + 1) := by exact_mod_cast habove
    have hpower : ∀ k : Int, (0 : ℚ) < 10 ^ k := fun k => zpow_pos (by norm_num) k
    constructor
    · rw [sub_sub_cancel_left, zpow_neg, inv_le_comm₀ (hpower _) (by positivity), inv_div, div_le_iff₀' hnumQ]
      exact haboveQ.trans (mul_le_mul_of_nonneg_left hhigh hnumQ.le)
    · rw [← neg_sub, zpow_neg, lt_inv_comm₀ (by positivity) (hpower _), inv_div, lt_div_iff₀ hnumQ]
      exact (mul_le_mul_of_nonneg_right hlow hnumQ.le).trans_lt hbelowQ

/-! ## Final zeros -/

/-- Zeros behind them make of the digits without final zeros all the digits again. -/
theorem withoutFinalZeros_append (digits : Text) :
    ∃ zeros, withoutFinalZeros digits ++ List.replicate zeros '0' = digits := by
  have hzeros : ∀ c ∈ digits.reverse.takeWhile (· = '0'), c = '0' := by
    intro c hc
    simpa only [decide_eq_true_eq] using List.mem_takeWhile_imp hc
  refine ⟨(digits.reverse.takeWhile (· = '0')).length, ?_⟩
  rw [withoutFinalZeros, ← List.reverse_replicate, ← List.eq_replicate_of_mem hzeros, ← List.reverse_append,
    List.takeWhile_append_dropWhile, List.reverse_reverse]

/-! ## Leading digits -/

/-- That digits can begin a number: there are some, and the first is no zero. -/
structure AreLeading (digits : Text) : Prop where
  nonempty : digits ≠ []
  isDigit : ∀ c ∈ digits, c.isDigit = true
  first : digits.head? ≠ some '0'

theorem areLeading_toDigits {n : Nat} (h : 0 < n) : AreLeading (Nat.toDigits 10 n) where
  nonempty := Nat.toDigits_ne_nil
  isDigit _ hc := Text.isDigit_of_mem_toDigits hc
  first := Text.head?_toDigits_ne_zero h

namespace AreLeading

variable {digits : Text}

theorem append (h : AreLeading digits) {more : Text} (hmore : ∀ c ∈ more, c.isDigit = true) :
    AreLeading (digits ++ more) where
  nonempty := List.append_ne_nil_of_left_ne_nil h.nonempty _
  isDigit c hc := (List.mem_append.mp hc).elim (h.isDigit c) (hmore c)
  first := by
    rw [List.head?_append_of_ne_nil _ h.nonempty]
    exact h.first

theorem of_append {more : Text} (h : AreLeading (digits ++ more)) (hne : digits ≠ []) : AreLeading digits where
  nonempty := hne
  isDigit c hc := h.isDigit c (List.mem_append_left _ hc)
  first := by
    rw [← List.head?_append_of_ne_nil _ hne]
    exact h.first

/-- Without its final zeros, digits can begin a number if they could with them. -/
theorem withoutFinalZeros (h : AreLeading digits) : AreLeading (Number.withoutFinalZeros digits) := by
  obtain ⟨zeros, hzeros⟩ := withoutFinalZeros_append digits
  have hall : AreLeading (Number.withoutFinalZeros digits ++ List.replicate zeros '0') := by rwa [hzeros]
  refine hall.of_append fun hnil => ?_
  rw [hnil, List.nil_append] at hzeros
  cases zeros with
  | zero => exact h.nonempty hzeros.symm
  | succ k => exact h.first (by rw [← hzeros]; rfl)

end AreLeading

/-! ## Points of a grid -/

/-- A point that is found on a grid is rounded to the number. -/
theorem roundsTo_of_nearestOnGrid? {significand : Nat} (hpositive : 0 < significand) {exponent power : Int}
    {value : Nat × Nat} {point : Nat}
    (h : nearestOnGrid? value (roundingInterval significand exponent) power = some point) :
    RoundsTo significand exponent (point * 10 ^ power) := by
  obtain ⟨hratio, hden⟩ := ratio_scaledByTen point power
  rw [← hratio, ← holds_roundingInterval_iff hpositive exponent hden]
  have hrounded : ∀ n d, roundedQuotient n d = n / d ∨ roundedQuotient n d = n / d + 1 := by
    intro n d
    unfold roundedQuotient
    grind
  unfold nearestOnGrid? at h
  grind

/-- The points of a grid that are looked at are the ones below and above the value, and one is found if either lies in
the interval. -/
theorem exists_gridPoint {value : Nat × Nat} (hden : 0 < value.2) (interval : Interval) (power : Int) :
    ∃ point : Nat, (point * 10 ^ power : ℚ) ≤ ratio value ∧ ratio value < (point + 1 : Nat) * 10 ^ power ∧
      (interval.holds (scaledByTen point power) = true ∨ interval.holds (scaledByTen (point + 1) power) = true →
        (nearestOnGrid? value interval power).isSome = true) := by
  have hunit : (0 : ℚ) < 10 ^ power := zpow_pos (by norm_num) _
  obtain ⟨n, d, hd, hratio, hfound⟩ : ∃ n d : Nat, 0 < d ∧ (n / d : ℚ) = ratio value / 10 ^ power ∧
      (interval.holds (scaledByTen (n / d) power) = true ∨ interval.holds (scaledByTen (n / d + 1) power) = true →
        (nearestOnGrid? value interval power).isSome = true) := by
    cases power with
    | ofNat k =>
      refine ⟨value.1, value.2 * Nat.pow 10 k, Nat.mul_pos hden (Nat.pow_pos (by decide)), ?_, ?_⟩
      · simp [ratio, div_div]
      · simp only [nearestOnGrid?]
        grind
    | negSucc k =>
      refine ⟨value.1 * Nat.pow 10 (k + 1), value.2, hden, ?_, ?_⟩
      · simp [ratio, zpow_negSucc, mul_div_right_comm]
      · simp only [nearestOnGrid?]
        grind
  refine ⟨n / d, ?_, ?_, hfound⟩
  · rw [← le_div_iff₀ hunit, ← hratio]
    exact Nat.cast_div_le
  · rw [← div_lt_iff₀ hunit, ← hratio, div_lt_iff₀' (by exact_mod_cast hd)]
    exact_mod_cast Nat.lt_mul_div_succ n hd

theorem isSome_nearestOnGrid? {significand : Nat} (hpositive : 0 < significand) {exponent power : Int}
    (hfine : (10 : ℚ) ^ power < (roomBelow significand exponent + 1 / 2) * 2 ^ exponent) :
    (nearestOnGrid? (Binary.fraction significand exponent) (roundingInterval significand exponent) power).isSome =
      true := by
  obtain ⟨hvalue, hden⟩ := ratio_fraction significand exponent
  obtain ⟨point, hbelow, habove, hfound⟩ := exists_gridPoint hden (roundingInterval significand exponent) power
  rw [hvalue] at hbelow habove
  have hholds : ∀ n : Nat, RoundsTo significand exponent (n * 10 ^ power) →
      (roundingInterval significand exponent).holds (scaledByTen n power) = true := by
    intro n h
    obtain ⟨hratio, hpoint⟩ := ratio_scaledByTen n power
    rwa [holds_roundingInterval_iff hpositive exponent hpoint, hratio]
  have hunit : (0 : ℚ) < 2 ^ exponent := two_zpow_pos _
  have hroom := (roomBelow_pos significand exponent).1
  apply hfound
  -- If the point below lies under the interval, the one above cannot lie over it.
  by_cases hlow : (significand - roomBelow significand exponent) * 2 ^ exponent < point * 10 ^ power
  · refine Or.inl (hholds point (.of_lt hlow (hbelow.trans_lt ?_)))
    linarith
  · refine Or.inr (hholds (point + 1) (.of_lt (lt_trans ?_ habove) ?_))
    · nlinarith
    · push_cast
      nlinarith

/-! ## Fewest digits -/

/-- With seventeen digits, the grid is finer than the interval. -/
theorem grid_fine {significand : Nat} {exponent : Int} (hformat : Binary.InFormat significand exponent)
    (hpositive : 0 < significand) :
    (10 : ℚ) ^ (decimalMagnitude (Binary.fraction significand exponent) - 17) <
      (roomBelow significand exponent + 1 / 2) * 2 ^ exponent := by
  obtain ⟨hvalue, hden⟩ := ratio_fraction significand exponent
  have hunit : (0 : ℚ) < 2 ^ exponent := two_zpow_pos _
  have hx : 0 < ratio (Binary.fraction significand exponent) := by
    rw [hvalue]
    exact mul_pos (by exact_mod_cast hpositive) hunit
  have hnum : 0 < (Binary.fraction significand exponent).1 := num_pos_of_ratio_pos hden hx
  have hmagnitude := (decimalMagnitude_spec hnum hden).1
  rw [← ratio, hvalue] at hmagnitude
  have hsteps : (10 : ℚ) ^ (decimalMagnitude (Binary.fraction significand exponent) - 1) =
      10 ^ 16 * 10 ^ (decimalMagnitude (Binary.fraction significand exponent) - 17) := by
    rw [← zpow_natCast, ← zpow_add₀ (by norm_num)]
    congr 1
    push_cast
    ring
  have hfine : 10 ^ 16 * (10 : ℚ) ^ (decimalMagnitude (Binary.fraction significand exponent) - 17) ≤
      significand * 2 ^ exponent := by
    rw [← hsteps]
    exact hmagnitude
  rw [roomBelow]
  split
  next hpower =>
    have hbits : (significand : ℚ) = 2 ^ 52 := by exact_mod_cast hpower.1
    nlinarith
  next =>
    have hbits : (significand : ℚ) ≤ 2 ^ 53 := by exact_mod_cast hformat.significand_lt.le
    nlinarith

/-- The fewest digits of a positive finite number are those of a point that is rounded to it, without its final
zeros. -/
theorem exists_shortestDigits {significand : Nat} {exponent : Int} (hformat : Binary.InFormat significand exponent)
    (hpositive : 0 < significand) :
    ∃ (point : Nat) (power : Int), RoundsTo significand exponent (point * 10 ^ power) ∧
      shortestDigits significand exponent =
        (withoutFinalZeros (Nat.toDigits 10 point), power + (Nat.toDigits 10 point).length) := by
  unfold shortestDigits
  simp only
  split
  next point power hfound =>
    obtain ⟨i, -, hmap⟩ := List.exists_of_findSome?_eq_some hfound
    obtain ⟨_, hpoint, heq⟩ := Option.map_eq_some_iff.mp hmap
    cases heq
    exact ⟨_, _, roundsTo_of_nearestOnGrid? hpositive hpoint, rfl⟩
  next hnone =>
    have hlast := List.findSome?_eq_none_iff.mp hnone 16 (by decide)
    have hfound := isSome_nearestOnGrid? hpositive (grid_fine hformat hpositive)
    rw [Option.map_eq_none_iff] at hlast
    have hpower : decimalMagnitude (Binary.fraction significand exponent) - ((16 : Nat) + 1 : Int) =
        decimalMagnitude (Binary.fraction significand exponent) - 17 := by norm_num
    rw [hpower] at hlast
    rw [hlast] at hfound
    cases hfound

/-- The fewest digits of a positive finite number can begin a number, and with their power of ten they are rounded to
the number. -/
theorem shortestDigits_spec {significand : Nat} {exponent : Int} (hformat : Binary.InFormat significand exponent)
    (hpositive : 0 < significand) :
    AreLeading (shortestDigits significand exponent).1 ∧
      RoundsTo significand exponent (Nat.ofDigitChars 10 (shortestDigits significand exponent).1 0 *
        10 ^ ((shortestDigits significand exponent).2 - (shortestDigits significand exponent).1.length)) := by
  obtain ⟨point, power, hrounds, heq⟩ := exists_shortestDigits hformat hpositive
  have hpoint : 0 < point := hrounds.digits_pos hpositive
  obtain ⟨zeros, hzeros⟩ := withoutFinalZeros_append (Nat.toDigits 10 point)
  have hlength : (Nat.toDigits 10 point).length = (withoutFinalZeros (Nat.toDigits 10 point)).length + zeros := by
    rw [← hzeros, List.length_append, List.length_replicate, hzeros]
  have hvalue : point = 10 ^ zeros * Nat.ofDigitChars 10 (withoutFinalZeros (Nat.toDigits 10 point)) 0 := by
    rw [← Nat.ofDigitChars_replicate_zero, ← Nat.ofDigitChars_append, hzeros, Nat.ofDigitChars_ten_toDigits]
  have hscaled : (Nat.ofDigitChars 10 (withoutFinalZeros (Nat.toDigits 10 point)) 0 : ℚ) *
      10 ^ (power + (Nat.toDigits 10 point).length - (withoutFinalZeros (Nat.toDigits 10 point)).length) =
        point * 10 ^ power := by
    have hpower : power + (Nat.toDigits 10 point).length - (withoutFinalZeros (Nat.toDigits 10 point)).length =
        power + zeros := by
      rw [hlength]
      push_cast
      ring
    have hpoint : (point : ℚ) = 10 ^ zeros * Nat.ofDigitChars 10 (withoutFinalZeros (Nat.toDigits 10 point)) 0 := by
      exact_mod_cast hvalue
    rw [hpower, zpow_add₀ (by norm_num), zpow_natCast, hpoint]
    ring
  rw [heq]
  refine ⟨(areLeading_toDigits hpoint).withoutFinalZeros, ?_⟩
  rw [hscaled]
  exact hrounds

end Wording.Number
