import Wording.Text.Integer
import Wording.Text.Quoted

/-!
Digits of numbers. The decimal digits of a number are digits, of which the first is a zero only for zero, and an integer
has one at least. A number of sixteen bits has exactly four hexadecimal digits when it is padded to four.
-/

set_option autoImplicit false

namespace Wording.Text

theorem isDigit_of_mem_toDigits {n : Nat} {c : Char} (h : c ∈ Nat.toDigits 10 n) : c.isDigit = true :=
  Nat.isDigit_of_mem_toDigits (by decide) (by decide) h

theorem head?_toDigits_ne_zero {n : Nat} (h : 0 < n) : (Nat.toDigits 10 n).head? ≠ some '0' := by
  induction n using Nat.strongRecOn with
  | ind n ih =>
    rw [Nat.toDigits_eq_if (by decide)]
    split
    next =>
      rw [List.head?_cons, ne_eq, Option.some_inj, Nat.digitChar_eq_zero]
      omega
    next hten =>
      rw [List.head?_append, Option.or_of_isSome (List.isSome_head?.mpr Nat.toDigits_ne_nil)]
      exact ih (n / 10) (by omega) (by omega)

theorem ofInt_ne_nil (n : Int) : ofInt n ≠ [] := by
  cases n with
  | ofNat k => exact Nat.toDigits_ne_nil
  | negSucc k => exact List.cons_ne_nil _ _

/-- One more place of a number that is padded with zeros is one more digit at its end. -/
theorem zeros_append_toDigits_succ {base length : Nat} (hbase : 1 < base) (h : 0 < length) (n : Nat) :
    List.replicate (length + 1 - (Nat.toDigits base n).length) '0' ++ Nat.toDigits base n =
      List.replicate (length - (Nat.toDigits base (n / base)).length) '0' ++ Nat.toDigits base (n / base) ++
        [(n % base).digitChar] := by
  by_cases hn : n < base
  · rw [Nat.toDigits_of_lt_base hn, Nat.div_eq_of_lt hn, Nat.mod_eq_of_lt hn, Nat.toDigits_zero,
      List.length_singleton, List.length_singleton, ← List.replicate_succ', Nat.sub_add_cancel h,
      Nat.add_sub_cancel]
  · rw [Nat.toDigits_of_base_le hbase (Nat.not_lt.mp hn), List.length_append, List.length_singleton,
      Nat.add_sub_add_right, List.append_assoc]

/-- One more place of a padded hexadecimal number is one more digit at its end. -/
theorem hexPadded_succ {length : Nat} (h : 0 < length) (n : Nat) :
    hexPadded (length + 1) n = hexPadded length (n / 16) ++ [(n % 16).digitChar] :=
  zeros_append_toDigits_succ (by decide) h n

/-- Padded to four hexadecimal digits, a number of sixteen bits has these four. -/
theorem hexPadded_four {n : Nat} (h : n < 0x10000) :
    hexPadded 4 n = [(n / 16 / 16 / 16).digitChar, (n / 16 / 16 % 16).digitChar, (n / 16 % 16).digitChar,
      (n % 16).digitChar] := by
  have hfirst : n / 16 / 16 / 16 < 16 := by omega
  rw [hexPadded_succ (by decide), hexPadded_succ (by decide), hexPadded_succ (by decide), hexPadded,
    Nat.toDigits_of_lt_base hfirst]
  rfl

end Wording.Text
