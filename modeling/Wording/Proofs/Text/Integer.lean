import Mathlib.Tactic.Ring
import Wording.Text.Integer

/-!
Integers that are written and read. Only those with too many digits are not written. Some digits write a number with no
more digits than they are, so an integer that is read from a text is never too long to be written again.
-/

set_option autoImplicit false

namespace Wording.Text

theorem writeInt_eq_ok_iff {n : Int} {t : Text} : writeInt n = .ok t ↔ isWritable n = true ∧ ofInt n = t := by
  rw [writeInt]
  split
  next h => rw [Except.ok.injEq, and_iff_right h]
  next h => exact iff_of_false nofun fun hboth => h hboth.1

theorem writeInt_eq_error_iff {n : Int} {why : Unwritable} :
    writeInt n = .error why ↔ isWritable n = false ∧ why = .tooManyDigits := by
  rw [writeInt]
  split
  next h => exact iff_of_false nofun fun hboth => absurd h (Bool.eq_false_iff.mp hboth.1)
  next h => rw [Except.error.injEq, and_iff_right (Bool.eq_false_iff.mpr h), eq_comm]

/-- An integer that is no further from zero than one that can be written can be written too. -/
theorem isWritable_of_natAbs_le {n bound : Int} (h : n.natAbs ≤ bound.natAbs) (hbound : isWritable bound = true) :
    isWritable n = true := by
  rw [isWritable, decide_eq_true_eq] at hbound ⊢
  exact h.trans_lt hbound

theorem digitValue?_lt {c : Char} {d : Nat} (h : digitValue? c = some d) : d < 10 := by
  obtain ⟨first, hfirst, rfl⟩ := Option.map_eq_some_iff.mp h
  have hrange := List.find?_some hfirst
  simp only [Bool.and_eq_true, decide_eq_true_eq] at hrange
  omega

theorem lt_of_mem_digitValues? {t : Text} {digits : List Nat} (h : digitValues? t = some digits) :
    ∀ d ∈ digits, d < 10 := by
  induction t using digitValues?.induct generalizing digits with
  | case1 => cases h
  | case2 c =>
    obtain ⟨d, hd, rfl⟩ := Option.map_eq_some_iff.mp h
    exact List.forall_mem_singleton.mpr (digitValue?_lt hd)
  | case3 c rest ih =>
    obtain ⟨d, hd, h⟩ := Option.bind_eq_some_iff.mp h
    obtain ⟨others, hothers, h⟩ := Option.bind_eq_some_iff.mp h
    cases h
    exact List.forall_mem_cons.mpr ⟨digitValue?_lt hd, ih hothers⟩
  | case4 c rest hsingle hline ih =>
    rw [digitValues?] at h
    · obtain ⟨d, hd, h⟩ := Option.bind_eq_some_iff.mp h
      obtain ⟨others, hothers, h⟩ := Option.bind_eq_some_iff.mp h
      cases h
      exact List.forall_mem_cons.mpr ⟨digitValue?_lt hd, ih hothers⟩
    · exact hsingle
    · exact hline

/-- Digits behind a number write less than the next number with as many zeros behind it. -/
theorem foldl_digits_lt {base : Nat} {digits : List Nat} (h : ∀ d ∈ digits, d < base) (n : Nat) :
    digits.foldl (fun n d => n * base + d) n < (n + 1) * base ^ digits.length := by
  -- The number before the digits changes from digit to digit, so it is left open.
  induction digits generalizing n with
  | nil => simp only [List.foldl_nil, List.length_nil, pow_zero, mul_one, Nat.lt_succ_self]
  | cons d rest ih =>
    obtain ⟨hd, hrest⟩ := List.forall_mem_cons.mp h
    calc (d :: rest).foldl (fun n d => n * base + d) n
        < (n * base + d + 1) * base ^ rest.length := ih hrest _
      _ ≤ (n * base + base) * base ^ rest.length := Nat.mul_le_mul_right _ (by omega)
      _ = (n + 1) * base ^ (d :: rest).length := by rw [List.length_cons]; ring

/-- So many digits write a number below the power of the base with that exponent. -/
theorem ofDigitValues_lt {base : Nat} {digits : List Nat} (h : ∀ d ∈ digits, d < base) :
    ofDigitValues base digits < base ^ digits.length := by
  simpa only [ofDigitValues, Nat.zero_add, Nat.one_mul] using foldl_digits_lt h 0

theorem readNatural?_lt {t : Text} {n : Nat} (h : readNatural? t = some n) : n < 10 ^ maxIntegerDigits := by
  obtain ⟨digits, hdigits, h⟩ := Option.bind_eq_some_iff.mp h
  split at h
  next hlength =>
    cases h
    exact (ofDigitValues_lt (lt_of_mem_digitValues? hdigits)).trans_le
      (Nat.pow_le_pow_right (by decide) hlength)
  next => cases h

/-- An integer that a text writes can be written. -/
theorem isWritable_of_readInteger? {t : Text} {n : Int} (h : readInteger? t = some n) : isWritable n = true := by
  rw [isWritable, decide_eq_true_eq, Nat.pow_eq]
  rw [readInteger?] at h
  split at h
  all_goals
    obtain ⟨_, hread, rfl⟩ := Option.map_eq_some_iff.mp h
    obtain ⟨k, hk, hread⟩ := Option.bind_eq_some_iff.mp hread
    cases hread
    simpa only [Int.natAbs_neg, Int.natAbs_natCast] using readNatural?_lt hk

end Wording.Text
