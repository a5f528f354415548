import Wording.Proofs.Number.Ratio

/-! # Rounding to binary numbers

A value in the interval around a finite number is rounded to this number, as a fraction and as decimal digits with a
power of ten. `RoundsTo` says what that interval is, over rational numbers: half a unit of the last bit on either side,
or a quarter below a power of two, the ends only if the significand is even.

The exponent that is chosen for a fraction leaves it a quotient of 53 bits (`exponentOf_spec`). For a value in the
interval that is the exponent of the number, or the one below it just under a power of two, where rounding carries into
the next (`exponentOf_of_roundsTo`); with either, the rounded quotient is the significand. Decimal digits are first
brought to such a fraction, but for powers of ten so great or so small that they are not looked at, and no value in the
interval has one of these (`power_le_of_lt`, `le_power_of_le`).
-/

set_option autoImplicit false

namespace Wording.Number

namespace Binary

/-- That a significand and an exponent are those of a finite number: the significand has 53 bits, fewer only at the
least exponent. -/
structure InFormat (significand : Nat) (exponent : Int) : Prop where
  significand_lt : significand < 2 ^ 53
  least_le : leastExponent ≤ exponent
  le_greatest : exponent ≤ greatestExponent
  eq_least : significand < 2 ^ 52 → exponent = leastExponent

/-- That a number is a finite one. -/
def IsFinite : Binary → Prop
  | .finite _ significand exponent => InFormat significand exponent
  | _ => False

end Binary

open Binary

/-! ## Powers -/

theorem two_zpow_pos (k : Int) : (0 : ℚ) < 2 ^ k := zpow_pos (by norm_num) k

theorem two_zpow_succ (k : Int) : (2 : ℚ) ^ (k + 1) = 2 * 2 ^ k := by
  rw [zpow_add_one₀ (by norm_num), mul_comm]

theorem two_zpow_le {low high : Int} (h : low ≤ high) : (2 : ℚ) ^ low ≤ 2 ^ high :=
  zpow_le_zpow_right₀ (by norm_num) h

theorem ten_zpow_le {low high : Int} (h : low ≤ high) : (10 : ℚ) ^ low ≤ 10 ^ high :=
  zpow_le_zpow_right₀ (by norm_num) h

/-- Ten is more than two to the third, so powers of ten grow three times as fast as powers of two. -/
theorem two_zpow_le_ten_zpow (k : Nat) : (2 : ℚ) ^ (3 * k : Int) ≤ 10 ^ (k : Int) := by
  rw [zpow_mul, zpow_natCast, zpow_natCast]
  exact pow_le_pow_left₀ (by norm_num) (by norm_num) k

/-! ## The interval around a number -/

/-- How far below a number values are rounded to it, in units of its last bit. -/
def roomBelow (significand : Nat) (exponent : Int) : ℚ :=
  if significand = 2 ^ 52 ∧ leastExponent < exponent then 1 / 4 else 1 / 2

theorem roomBelow_pos (significand : Nat) (exponent : Int) :
    0 < roomBelow significand exponent ∧ roomBelow significand exponent ≤ 1 / 2 := by
  unfold roomBelow
  split <;> norm_num

/-- That a value is rounded to a number; the ends of the interval are rounded to an even significand alone. -/
structure RoundsTo (significand : Nat) (exponent : Int) (x : ℚ) : Prop where
  low : (significand - roomBelow significand exponent) * 2 ^ exponent ≤ x
  high : x ≤ (significand + 1 / 2) * 2 ^ exponent
  open_of_odd : significand % 2 ≠ 0 →
    (significand - roomBelow significand exponent) * 2 ^ exponent < x ∧ x < (significand + 1 / 2) * 2 ^ exponent

/-- Strictly inside the interval, values are rounded to the number. -/
theorem RoundsTo.of_lt {significand : Nat} {exponent : Int} {x : ℚ}
    (hlow : (significand - roomBelow significand exponent) * 2 ^ exponent < x)
    (hhigh : x < (significand + 1 / 2) * 2 ^ exponent) : RoundsTo significand exponent x :=
  ⟨hlow.le, hhigh.le, fun _ => ⟨hlow, hhigh⟩⟩

theorem RoundsTo.pos {significand : Nat} {exponent : Int} {x : ℚ} (h : RoundsTo significand exponent x)
    (hpositive : 0 < significand) : 0 < x := by
  have hroom := (roomBelow_pos significand exponent).2
  have hone : (1 : ℚ) ≤ significand := by exact_mod_cast hpositive
  have hlow : 0 < (significand - roomBelow significand exponent) * 2 ^ exponent :=
    mul_pos (by linarith) (two_zpow_pos _)
  exact hlow.trans_le h.low

/-- Decimal digits that are rounded to a positive number are those of a positive number. -/
theorem RoundsTo.digits_pos {significand : Nat} {exponent : Int} {digits : Nat} {power : Int}
    (h : RoundsTo significand exponent (digits * 10 ^ power)) (hpositive : 0 < significand) : 0 < digits := by
  have hx := h.pos hpositive
  rw [mul_pos_iff_of_pos_right (zpow_pos (by norm_num) power)] at hx
  exact_mod_cast hx

/-- The ends of the interval around a positive number. -/
theorem ratio_roundingInterval {significand : Nat} (hpositive : 0 < significand) (exponent : Int) :
    ratio (roundingInterval significand exponent).low =
        (significand - roomBelow significand exponent) * 2 ^ exponent ∧
      ratio (roundingInterval significand exponent).high = (significand + 1 / 2) * 2 ^ exponent := by
  have hquarter : (2 : ℚ) ^ (exponent - 2) = 2 ^ exponent / 4 := by
    rw [zpow_sub₀ (by norm_num)]
    norm_num
  rw [roundingInterval, (ratio_fraction _ _).1, (ratio_fraction _ _).1, hquarter]
  constructor
  · rw [roomBelow, Nat.pow_eq]
    split
    all_goals
      rw [Nat.cast_sub (by omega)]
      push_cast
      ring
  · push_cast
    ring

/-- The interval around a positive number holds the values that are rounded to it. -/
theorem holds_roundingInterval_iff {significand : Nat} (hpositive : 0 < significand) (exponent : Int) {f : Nat × Nat}
    (hf : 0 < f.2) :
    (roundingInterval significand exponent).holds f = true ↔ RoundsTo significand exponent (ratio f) := by
  obtain ⟨hlow, hhigh⟩ := ratio_roundingInterval hpositive exponent
  have hclosed : (roundingInterval significand exponent).closed = decide (significand % 2 = 0) := rfl
  have hlowDen : 0 < (roundingInterval significand exponent).low.2 := (ratio_fraction _ _).2
  have hhighDen : 0 < (roundingInterval significand exponent).high.2 := (ratio_fraction _ _).2
  have hbelow := fractionLt_iff hf hlowDen
  have habove := fractionLt_iff hhighDen hf
  have hbehindLow := fractionLt_iff hlowDen hf
  have hbeforeHigh := fractionLt_iff hf hhighDen
  rw [hlow] at hbelow hbehindLow
  rw [hhigh] at habove hbeforeHigh
  rw [Interval.holds, hclosed]
  by_cases heven : significand % 2 = 0
  · simp only [heven, decide_true, if_true, Bool.and_eq_true, Bool.not_eq_true', Bool.eq_false_iff, ne_eq, hbelow,
      habove, not_lt]
    exact ⟨fun h => ⟨h.1, h.2, fun hodd => absurd heven hodd⟩, fun h => ⟨h.low, h.high⟩⟩
  · simp only [heven, decide_false, Bool.false_eq_true, if_false, Bool.and_eq_true, hbehindLow, hbeforeHigh]
    exact ⟨fun h => .of_lt h.1 h.2, fun h => h.open_of_odd heven⟩

/-! ## Rounding a quotient -/

/-- A numerator that lies half a denominator around a multiple of it, the ends only around an even multiple, gives the
rounded quotient. -/
theorem roundedQuotient_eq {num den n : Nat} (hden : 0 < den) (hlow : 2 * (n * den) ≤ 2 * num + den)
    (hhigh : 2 * num ≤ 2 * (n * den) + den)
    (hodd : n % 2 ≠ 0 → 2 * (n * den) < 2 * num + den ∧ 2 * num < 2 * (n * den) + den) :
    roundedQuotient num den = n := by
  have hdivision := Nat.div_add_mod' num den
  have hrest := Nat.mod_lt num hden
  have hle : num / den < n + 1 := by
    refine Nat.lt_of_mul_lt_mul_right (a := den) ?_
    rw [Nat.add_mul]
    omega
  have hge : n < num / den + 2 := by
    refine Nat.lt_of_mul_lt_mul_right (a := den) ?_
    rw [Nat.add_mul]
    omega
  obtain hn | hn : n = num / den ∨ n = num / den + 1 := by omega
  · -- The rest is at most half of the denominator, and half of it only if the multiple is even.
    rw [← hn] at hdivision
    simp only [roundedQuotient, ← hn]
    split
    · rfl
    · rw [if_neg (by omega), if_pos (by omega)]
  · rw [hn, Nat.add_mul] at hlow hhigh hodd
    rw [hn]
    simp only [roundedQuotient]
    rw [if_neg (by omega)]
    split
    · rfl
    · exact if_neg (by omega)

/-- A fraction that lies half a unit around a number, the ends only around an even one, is rounded to it. -/
theorem roundedQuotient_of_ratio {f : Nat × Nat} (hf : 0 < f.2) {n : Nat} (hlow : (n : ℚ) - 1 / 2 ≤ ratio f)
    (hhigh : ratio f ≤ n + 1 / 2) (hodd : n % 2 ≠ 0 → (n : ℚ) - 1 / 2 < ratio f ∧ ratio f < n + 1 / 2) :
    roundedQuotient f.1 f.2 = n := by
  have hden : (0 : ℚ) < f.2 := by exact_mod_cast hf
  rw [ratio, le_div_iff₀ hden] at hlow
  rw [ratio, div_le_iff₀ hden] at hhigh
  rw [ratio, lt_div_iff₀ hden, div_lt_iff₀ hden] at hodd
  have hdoubleLow : (2 * (n * f.2) : ℚ) ≤ 2 * f.1 + f.2 := by linarith
  have hdoubleHigh : (2 * f.1 : ℚ) ≤ 2 * (n * f.2) + f.2 := by linarith
  refine roundedQuotient_eq hf (by exact_mod_cast hdoubleLow) (by exact_mod_cast hdoubleHigh) fun h => ?_
  have hstrictLow : (2 * (n * f.2) : ℚ) < 2 * f.1 + f.2 := by linarith [(hodd h).1]
  have hstrictHigh : (2 * f.1 : ℚ) < 2 * (n * f.2) + f.2 := by linarith [(hodd h).2]
  exact ⟨by exact_mod_cast hstrictLow, by exact_mod_cast hstrictHigh⟩

theorem roundedQuotient_dividedByPower {num den : Nat} (hden : 0 < den) {n : Nat} {exponent : Int}
    (hlow : (n - 1 / 2) * 2 ^ exponent ≤ (num / den : ℚ)) (hhigh : (num / den : ℚ) ≤ (n + 1 / 2) * 2 ^ exponent)
    (hodd : n % 2 ≠ 0 →
      (n - 1 / 2) * 2 ^ exponent < (num / den : ℚ) ∧ (num / den : ℚ) < (n + 1 / 2) * 2 ^ exponent) :
    roundedQuotient (dividedByPower num den exponent).1 (dividedByPower num den exponent).2 = n := by
  obtain ⟨hratio, hdivisor⟩ := ratio_dividedByPower num den hden exponent
  have hunit : (0 : ℚ) < 2 ^ exponent := two_zpow_pos _
  apply roundedQuotient_of_ratio hdivisor
  · rwa [hratio, le_div_iff₀ hunit]
  · rwa [hratio, div_le_iff₀ hunit]
  · rwa [hratio, lt_div_iff₀ hunit, div_lt_iff₀ hunit]

/-! ## The exponent of a fraction -/

theorem log2_bounds {n : Nat} (h : 0 < n) :
    (2 : ℚ) ^ (Nat.log2 n : Int) ≤ n ∧ (n : ℚ) < 2 * 2 ^ (Nat.log2 n : Int) := by
  rw [zpow_natCast]
  constructor
  · exact_mod_cast Nat.log2_self_le h.ne'
  · rw [← pow_succ']
    exact_mod_cast Nat.lt_log2_self

/-- With the exponent below it, a positive fraction has a quotient of 53 or 54 bits. -/
theorem guess_bounds {num den : Nat} (hnum : 0 < num) (hden : 0 < den) :
    2 ^ 52 * 2 ^ ((Nat.log2 num : Int) - Nat.log2 den - 53) < (num / den : ℚ) ∧
      (num / den : ℚ) < 2 ^ 54 * 2 ^ ((Nat.log2 num : Int) - Nat.log2 den - 53) := by
  obtain ⟨hnumLow, hnumHigh⟩ := log2_bounds hnum
  obtain ⟨hdenLow, hdenHigh⟩ := log2_bounds hden
  have hpositive : (0 : ℚ) < den := by exact_mod_cast hden
  have hpower : (2 : ℚ) ^ (Nat.log2 num : Int) =
      2 ^ 53 * 2 ^ ((Nat.log2 num : Int) - Nat.log2 den - 53) * 2 ^ (Nat.log2 den : Int) := by
    rw [← zpow_natCast (2 : ℚ) 53, ← zpow_add₀ (by norm_num), ← zpow_add₀ (by norm_num)]
    congr 1
    push_cast
    ring
  have hunit : (0 : ℚ) < 2 ^ ((Nat.log2 num : Int) - Nat.log2 den - 53) := two_zpow_pos _
  rw [hpower] at hnumLow hnumHigh
  constructor
  · rw [lt_div_iff₀ hpositive]
    nlinarith
  · rw [div_lt_iff₀ hpositive]
    nlinarith

/-- Bounds of the quotient of a fraction divided by a power of two are bounds of the fraction. -/
theorem div_dividedByPower_lt_iff {num den : Nat} (hden : 0 < den) {exponent : Int} {n : Nat} :
    (dividedByPower num den exponent).1 / (dividedByPower num den exponent).2 < n ↔
      (num / den : ℚ) < n * 2 ^ exponent := by
  obtain ⟨hratio, hdivisor⟩ := ratio_dividedByPower num den hden exponent
  rw [Nat.div_lt_iff_lt_mul hdivisor, ← div_lt_iff₀ (two_zpow_pos exponent), ← hratio, ratio,
    div_lt_iff₀ (by exact_mod_cast hdivisor)]
  norm_cast

/-- The exponent of a positive fraction leaves it a quotient of 53 bits, or of fewer bits at the least exponent. -/
theorem exponentOf_spec {num den : Nat} (hnum : 0 < num) (hden : 0 < den) :
    leastExponent ≤ exponentOf num den ∧ (num / den : ℚ) < 2 ^ 53 * 2 ^ exponentOf num den ∧
      (exponentOf num den = leastExponent ∨ 2 ^ 52 * 2 ^ exponentOf num den ≤ (num / den : ℚ)) := by
  obtain ⟨hlow, hhigh⟩ := guess_bounds hnum hden
  generalize hguess : (Nat.log2 num : Int) - Nat.log2 den - 53 = guess at hlow hhigh
  -- Whether the quotient has 53 bits decides between the guess and the next exponent.
  have hfits : (dividedByPower num den guess).1 / (dividedByPower num den guess).2 < 2 ^ 53 ↔
      (num / den : ℚ) < 2 ^ 53 * 2 ^ guess := by
    rw [div_dividedByPower_lt_iff hden, Nat.cast_pow, Nat.cast_ofNat]
  obtain ⟨chosen, hchosen, hbelow, habove⟩ : ∃ chosen, exponentOf num den = max leastExponent chosen ∧
      2 ^ 52 * 2 ^ chosen ≤ (num / den : ℚ) ∧ (num / den : ℚ) < 2 ^ 53 * 2 ^ chosen := by
    rw [exponentOf, hguess]
    simp only [Nat.pow_eq]
    split
    next h => exact ⟨guess, rfl, hlow.le, hfits.mp h⟩
    next h =>
      refine ⟨guess + 1, rfl, ?_, ?_⟩
      · rw [two_zpow_succ]
        linarith [not_lt.mp (mt hfits.mpr h)]
      · rw [two_zpow_succ]
        linarith
  rw [hchosen]
  refine ⟨le_max_left _ _, habove.trans_le ?_, ?_⟩
  · exact mul_le_mul_of_nonneg_left (two_zpow_le (le_max_right _ _)) (by norm_num)
  · rcases max_choice leastExponent chosen with hmax | hmax
    · exact Or.inl hmax
    · exact Or.inr (by rwa [hmax])

/-! ## Rounding a fraction -/

/-- The exponent of a fraction that is rounded to a number is the exponent of the number, or just under a power of two
the one below it. -/
theorem exponentOf_of_roundsTo {significand : Nat} {exponent : Int} (hformat : InFormat significand exponent)
    {num den : Nat} (hnum : 0 < num) (hden : 0 < den) (h : RoundsTo significand exponent (num / den)) :
    exponentOf num den = exponent ∨
      exponentOf num den + 1 = exponent ∧ significand = 2 ^ 52 ∧ leastExponent < exponent := by
  obtain ⟨hleast, habove, hbelow⟩ := exponentOf_spec hnum hden
  generalize exponentOf num den = chosen at *
  have hunit : (0 : ℚ) < 2 ^ exponent := two_zpow_pos _
  have hle : chosen ≤ exponent := by
    by_contra hlt
    have hlarge := hbelow.resolve_left (by have := hformat.least_le; omega)
    have hnext : 2 * (2 : ℚ) ^ exponent ≤ 2 ^ chosen := by
      rw [← two_zpow_succ]
      exact two_zpow_le (by omega)
    have hbits : (significand : ℚ) + 1 ≤ 2 ^ 53 := by exact_mod_cast hformat.significand_lt
    nlinarith [h.high]
  rcases hle.eq_or_lt with heq | hlt
  · exact Or.inl heq
  have hnormal : 2 ^ 52 ≤ significand := by
    by_contra hsmall
    have := hformat.eq_least (by omega)
    omega
  have hhalf : 2 * (2 : ℚ) ^ chosen ≤ 2 ^ exponent := by
    rw [← two_zpow_succ]
    exact two_zpow_le hlt
  have hroom := (roomBelow_pos significand exponent).2
  have hpower : significand = 2 ^ 52 := by
    have : (significand : ℚ) < 2 ^ 52 + 1 := by nlinarith [h.low]
    have : significand < 2 ^ 52 + 1 := by exact_mod_cast this
    omega
  refine Or.inr ⟨?_, hpower, by omega⟩
  by_contra hne
  have hquarter : 4 * (2 : ℚ) ^ chosen ≤ 2 ^ exponent := by
    have := two_zpow_le (show chosen + 1 + 1 ≤ exponent by omega)
    rw [two_zpow_succ, two_zpow_succ] at this
    linarith
  have hbits : (significand : ℚ) = 2 ^ 52 := by exact_mod_cast hpower
  have hlow := h.low
  rw [hbits] at hlow
  nlinarith

/-- A fraction that is rounded to a finite number becomes this number, with its sign. -/
theorem ofFraction_of_roundsTo {significand : Nat} {exponent : Int} (hformat : InFormat significand exponent)
    (hpositive : 0 < significand) {num den : Nat} (hden : 0 < den)
    (h : RoundsTo significand exponent (num / den)) (negative : Bool) :
    ofFraction negative num den = .finite negative significand exponent := by
  have hnum : 0 < num := num_pos_of_ratio_pos hden (h.pos hpositive)
  have hgreatest : ¬ greatestExponent < exponent := not_lt.mpr hformat.le_greatest
  rw [ofFraction, if_neg hnum.ne']
  rcases exponentOf_of_roundsTo hformat hnum hden h with hchosen | ⟨hchosen, hpower, hleast⟩
  · have hroom := (roomBelow_pos significand exponent).2
    have hunit : (0 : ℚ) < 2 ^ exponent := two_zpow_pos _
    have hrounded : roundedQuotient (dividedByPower num den exponent).1 (dividedByPower num den exponent).2 =
        significand := by
      refine roundedQuotient_dividedByPower hden ?_ h.high fun hodd => ⟨?_, (h.open_of_odd hodd).2⟩
      · nlinarith [h.low]
      · nlinarith [(h.open_of_odd hodd).1]
    have hbits : significand ≠ 2 ^ 53 := hformat.significand_lt.ne
    simp only [hchosen, hrounded, Nat.pow_eq, if_neg hbits, if_neg hgreatest]
  · -- Just under the power of two, rounding carries into it.
    have habove := (exponentOf_spec hnum hden).2.1
    generalize exponentOf num den = chosen at hchosen habove
    have hunit : (0 : ℚ) < 2 ^ chosen := two_zpow_pos _
    have hbits : (significand : ℚ) = 2 ^ 52 := by exact_mod_cast hpower
    have hlow := h.low
    rw [roomBelow, if_pos ⟨hpower, hleast⟩, hbits, ← hchosen, two_zpow_succ] at hlow
    have hrounded : roundedQuotient (dividedByPower num den chosen).1 (dividedByPower num den chosen).2 = 2 ^ 53 := by
      refine roundedQuotient_dividedByPower hden ?_ ?_ fun hodd => absurd rfl hodd
      · push_cast
        linarith
      · push_cast
        linarith
    simp only [hrounded, Nat.pow_eq, if_true, hchosen, if_neg hgreatest, hpower]

/-! ## Rounding decimal digits -/

/-- Values that are rounded to a positive finite number are less than the power of two behind the greatest exponent, and
not less than half of the least number. -/
theorem RoundsTo.bounds {significand : Nat} {exponent : Int} {x : ℚ} (h : RoundsTo significand exponent x)
    (hformat : InFormat significand exponent) (hpositive : 0 < significand) :
    2 ^ (-1075 : Int) ≤ x ∧ x < 2 ^ (1024 : Int) := by
  have hroom := (roomBelow_pos significand exponent).2
  have hone : (1 : ℚ) ≤ significand := by exact_mod_cast hpositive
  have hbits : (significand : ℚ) + 1 ≤ 2 ^ 53 := by exact_mod_cast hformat.significand_lt
  have hunit : (0 : ℚ) < 2 ^ exponent := two_zpow_pos _
  constructor
  · have hleast : 2 * (2 : ℚ) ^ (-1075 : Int) ≤ 2 ^ exponent := by
      rw [← two_zpow_succ]
      exact two_zpow_le hformat.least_le
    nlinarith [h.low]
  · have hgreatest : (2 : ℚ) ^ 53 * 2 ^ exponent ≤ 2 ^ (1024 : Int) := by
      rw [← zpow_natCast, ← zpow_add₀ (by norm_num)]
      have := hformat.le_greatest
      exact two_zpow_le (by unfold greatestExponent at this; push_cast; omega)
    calc x ≤ (significand + 1 / 2) * 2 ^ exponent := h.high
      _ < 2 ^ 53 * 2 ^ exponent := mul_lt_mul_of_pos_right (by linarith) hunit
      _ ≤ 2 ^ (1024 : Int) := hgreatest

/-- Digits that are less than the power of two behind the greatest exponent have no great power of ten. -/
theorem power_le_of_lt {digits : Nat} {power : Int} (hdigits : 0 < digits)
    (h : (digits * 10 ^ power : ℚ) < 2 ^ (1024 : Int)) : power ≤ 400 := by
  by_contra hlarge
  have hone : (1 : ℚ) ≤ digits := by exact_mod_cast hdigits
  have hlower : (2 : ℚ) ^ (1024 : Int) ≤ digits * 10 ^ power :=
    calc (2 : ℚ) ^ (1024 : Int) ≤ 2 ^ (3 * (400 : Nat) : Int) := two_zpow_le (by norm_num)
      _ ≤ 10 ^ ((400 : Nat) : Int) := two_zpow_le_ten_zpow 400
      _ ≤ 10 ^ power := ten_zpow_le (by push_cast; omega)
      _ ≤ digits * 10 ^ power := le_mul_of_one_le_left (zpow_nonneg (by norm_num) _) hone
  exact hlower.not_gt h

/-- Digits that are not less than half of the least number have no small power of ten, for so many digits. -/
theorem le_power_of_le {digits : Nat} {power : Int} (hdigits : 0 < digits)
    (h : (2 : ℚ) ^ (-1075 : Int) ≤ digits * 10 ^ power) : -400 - (Nat.log2 digits : Int) ≤ power := by
  by_contra hsmall
  have hnonneg : (0 : ℚ) ≤ digits := Nat.cast_nonneg _
  have hten : (10 : ℚ) ^ (-(400 + Nat.log2 digits : Nat) : Int) ≤
      2 ^ (-(3 * (400 + Nat.log2 digits : Nat)) : Int) := by
    rw [zpow_neg, zpow_neg]
    exact inv_anti₀ (two_zpow_pos _) (two_zpow_le_ten_zpow _)
  have hupper : digits * 10 ^ power < (2 : ℚ) ^ (-1075 : Int) :=
    calc digits * 10 ^ power ≤ digits * (10 : ℚ) ^ (-(400 + Nat.log2 digits : Nat) : Int) :=
          mul_le_mul_of_nonneg_left (ten_zpow_le (by push_cast; omega)) hnonneg
      _ ≤ digits * (2 : ℚ) ^ (-(3 * (400 + Nat.log2 digits : Nat)) : Int) := mul_le_mul_of_nonneg_left hten hnonneg
      _ < 2 * 2 ^ (Nat.log2 digits : Int) * 2 ^ (-(3 * (400 + Nat.log2 digits : Nat)) : Int) :=
          mul_lt_mul_of_pos_right (log2_bounds hdigits).2 (two_zpow_pos _)
      _ ≤ 2 ^ (-1075 : Int) := by
          rw [← two_zpow_succ, ← zpow_add₀ (by norm_num)]
          exact two_zpow_le (by push_cast; omega)
  exact h.not_gt hupper

/-- Decimal digits with a power of ten that are rounded to a finite number become this number, with its sign. -/
theorem ofDecimal_of_roundsTo {significand : Nat} {exponent : Int} (hformat : InFormat significand exponent)
    (hpositive : 0 < significand) {digits : Nat} {power : Int}
    (h : RoundsTo significand exponent (digits * 10 ^ power)) (negative : Bool) :
    ofDecimal negative digits power = .finite negative significand exponent := by
  obtain ⟨hlow, hhigh⟩ := h.bounds hformat hpositive
  have hdigits : 0 < digits := h.digits_pos hpositive
  obtain ⟨hratio, hden⟩ := ratio_scaledByTen digits power
  have hscaled : RoundsTo significand exponent ((scaledByTen digits power).1 / (scaledByTen digits power).2) := by
    rw [← ratio, hratio]
    exact h
  unfold ofDecimal
  rw [if_neg hdigits.ne', if_neg (power_le_of_lt hdigits hhigh).not_gt,
    if_neg (le_power_of_le hdigits hlow).not_gt, ← ofFraction_of_roundsTo hformat hpositive hden hscaled]
  cases power <;> rfl

end Wording.Number
