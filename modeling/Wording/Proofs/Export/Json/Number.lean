import Wording.Export.Json.Token
import Wording.Proofs.Number.Shortest

/-! # The texts of numbers in documents

The decimal digits of an integer are a number, and so are the fewest digits of a finite binary number, around a point or
with an exponent. A number is a sign, a whole part that does not begin with a zero unless it is one, a fraction and an
exponent; each of the lemmas says of one of these parts that it is read up to where the next begins. Apart from that,
only the characters of numbers matter: the reader of documents ends a number in front of the first character that no
number holds.
-/

set_option autoImplicit false

namespace Wording.Export.Json

/-! ## Parts of a number -/

/-- A text is a run of digits if it holds nothing else, and something. -/
theorem isDigits_iff {t : Text} : isDigits t = true ↔ t ≠ [] ∧ ∀ c ∈ t, c.isDigit = true := by
  rw [isDigits, Bool.and_eq_true, decide_eq_true_eq, List.all_eq_true]

/-- The digits of a run are the beginning of it, up to a character that is no digit. -/
theorem takeWhile_dropWhile_digits {digits ending : Text} (hdigits : ∀ c ∈ digits, c.isDigit = true)
    (hending : ∀ c, ending.head? = some c → c.isDigit = false) :
    (digits ++ ending).takeWhile Char.isDigit = digits ∧ (digits ++ ending).dropWhile Char.isDigit = ending := by
  rw [List.takeWhile_append_of_pos hdigits, List.dropWhile_append_of_pos hdigits]
  cases ending with
  | nil => exact ⟨List.append_nil _, rfl⟩
  | cons c cs =>
    have hc := hending c rfl
    simp only [List.takeWhile_cons, List.dropWhile_cons, hc, Bool.false_eq_true, if_false, List.append_nil, and_self]

theorem isDigit_head?_of_isExponent {t : Text} (h : isExponent t = true) {c : Char} (hc : t.head? = some c) :
    c.isDigit = false ∧ c ≠ '.' := by
  cases t with
  | nil => cases hc
  | cons d rest =>
    cases hc
    simp only [isExponent, Bool.and_eq_true, Bool.or_eq_true, decide_eq_true_eq] at h
    obtain ⟨rfl | rfl, -⟩ := h <;> decide

/-- What follows the whole part of a number does not begin with a digit. -/
theorem isDigit_head?_of_isFraction {t : Text} (h : isFraction t = true) {c : Char} (hc : t.head? = some c) :
    c.isDigit = false := by
  unfold isFraction at h
  split at h
  · cases hc
    rfl
  · exact (isDigit_head?_of_isExponent h hc).1

theorem isFraction_of_isExponent {t : Text} (h : isExponent t = true) : isFraction t = true := by
  unfold isFraction
  split
  · exact absurd rfl (isDigit_head?_of_isExponent h rfl).2
  · exact h

/-- A point with digits behind it, and perhaps an exponent behind these, follows the whole part of a number. -/
theorem isFraction_point {digits ending : Text} (hdigits : isDigits digits = true)
    (hending : isExponent ending = true) : isFraction ('.' :: digits ++ ending) = true := by
  obtain ⟨hne, hall⟩ := isDigits_iff.mp hdigits
  obtain ⟨htake, hdrop⟩ := takeWhile_dropWhile_digits hall fun c hc => (isDigit_head?_of_isExponent hending hc).1
  rw [List.cons_append, isFraction, htake, hdrop, hending, decide_eq_true hne]
  rfl

theorem isUnsigned_append {whole fraction : Text} (hwhole : isWholePart whole = true)
    (hfraction : isFraction fraction = true) : isUnsigned (whole ++ fraction) = true := by
  have hdigits : isDigits whole = true := (Bool.and_eq_true_iff.mp hwhole).1
  obtain ⟨htake, hdrop⟩ := takeWhile_dropWhile_digits (isDigits_iff.mp hdigits).2
    fun c hc => isDigit_head?_of_isFraction hfraction hc
  rw [isUnsigned, htake, hdrop, hwhole, hfraction]
  rfl

theorem isDigit_head_of_isUnsigned {c : Char} {rest : Text} (h : isUnsigned (c :: rest) = true) :
    c.isDigit = true := by
  by_contra hc
  rw [isUnsigned, List.takeWhile_cons_of_neg hc] at h
  cases h

theorem ne_minus_of_isUnsigned {t : Text} (h : isUnsigned t = true) (rest : Text) : t ≠ '-' :: rest := by
  rintro rfl
  cases isDigit_head_of_isUnsigned h

theorem isNumber_signText_append {t : Text} (h : isUnsigned t = true) (negative : Bool) :
    isNumber (Number.signText negative ++ t) = true := by
  cases negative with
  | true => exact h
  | false =>
    rw [Number.signText, if_neg Bool.false_ne_true, List.nil_append, isNumber]
    · exact h
    · exact ne_minus_of_isUnsigned h

/-! ## Characters of a number -/

theorem isNumberChar_of_isDigit {c : Char} (h : c.isDigit = true) : isNumberChar c = true := by
  rw [isNumberChar, h, Bool.true_or]

theorem isNumberChar_of_mem_exponent {t : Text} (h : isExponent t = true) {c : Char} (hc : c ∈ t) :
    isNumberChar c = true := by
  cases t with
  | nil => cases hc
  | cons letter rest =>
    simp only [isExponent, Bool.and_eq_true, Bool.or_eq_true, decide_eq_true_eq] at h
    obtain ⟨hletter, hdigits⟩ := h
    have hrest : ∀ d ∈ dropSign rest, isNumberChar d = true := fun d hd =>
      isNumberChar_of_isDigit ((isDigits_iff.mp hdigits).2 d hd)
    rcases List.mem_cons.mp hc with rfl | hc
    · rcases hletter with rfl | rfl <;> rfl
    · unfold dropSign at hrest
      split at hrest
      next =>
        rcases List.mem_cons.mp hc with rfl | hc
        · rfl
        · exact hrest c hc
      next =>
        rcases List.mem_cons.mp hc with rfl | hc
        · rfl
        · exact hrest c hc
      next => exact hrest c hc

/-- What follows the whole part of a number holds characters of numbers. -/
theorem isNumberChar_of_mem_fraction {t : Text} (h : isFraction t = true) {c : Char} (hc : c ∈ t) :
    isNumberChar c = true := by
  unfold isFraction at h
  split at h
  next rest =>
    rw [Bool.and_eq_true] at h
    rcases List.mem_cons.mp hc with rfl | hc
    · rfl
    · rw [← List.takeWhile_append_dropWhile (p := Char.isDigit) (l := rest)] at hc
      rcases List.mem_append.mp hc with hc | hc
      · exact isNumberChar_of_isDigit (List.mem_takeWhile_imp hc)
      · exact isNumberChar_of_mem_exponent h.2 hc
  next => exact isNumberChar_of_mem_exponent h hc

theorem isNumberChar_of_mem_unsigned {t : Text} (h : isUnsigned t = true) {c : Char} (hc : c ∈ t) :
    isNumberChar c = true := by
  rw [isUnsigned, Bool.and_eq_true] at h
  rw [← List.takeWhile_append_dropWhile (p := Char.isDigit) (l := t)] at hc
  rcases List.mem_append.mp hc with hc | hc
  · exact isNumberChar_of_isDigit (List.mem_takeWhile_imp hc)
  · exact isNumberChar_of_mem_fraction h.2 hc

/-- A number begins with a minus sign or a digit, and goes on with characters of numbers. -/
theorem exists_cons_of_isNumber {t : Text} (h : isNumber t = true) :
    ∃ c rest, t = c :: rest ∧ (c = '-' ∨ c.isDigit = true) ∧ ∀ d ∈ rest, isNumberChar d = true := by
  unfold isNumber at h
  split at h
  next rest => exact ⟨'-', rest, rfl, Or.inl rfl, fun d hd => isNumberChar_of_mem_unsigned h hd⟩
  next =>
    cases t with
    | nil => cases h
    | cons c rest =>
      exact ⟨c, rest, rfl, Or.inr (isDigit_head_of_isUnsigned h),
        fun d hd => isNumberChar_of_mem_unsigned h (List.mem_cons_of_mem _ hd)⟩

/-! ## Integers -/

theorem isWholePart_of_areLeading {digits : Text} (h : Number.AreLeading digits) : isWholePart digits = true := by
  rw [isWholePart, Bool.and_eq_true, Bool.or_eq_true, decide_eq_true_eq, decide_eq_true_eq]
  exact ⟨isDigits_iff.mpr ⟨h.nonempty, h.isDigit⟩, Or.inr h.first⟩

theorem isWholePart_toDigits (n : Nat) : isWholePart (Nat.toDigits 10 n) = true := by
  cases Nat.eq_zero_or_pos n with
  | inl hzero =>
    rw [hzero]
    rfl
  | inr hpositive => exact isWholePart_of_areLeading (Number.areLeading_toDigits hpositive)

theorem isUnsigned_toDigits (n : Nat) : isUnsigned (Nat.toDigits 10 n) = true := by
  rw [← List.append_nil (Nat.toDigits 10 n)]
  exact isUnsigned_append (isWholePart_toDigits n) rfl

/-- An integer is a number. -/
theorem isNumber_ofInt (n : Int) : isNumber (Text.ofInt n) = true := by
  cases n with
  | ofNat k => exact isNumber_signText_append (isUnsigned_toDigits k) false
  | negSucc k => exact isNumber_signText_append (isUnsigned_toDigits (k + 1)) true

/-! ## Binary numbers -/

theorem isDigit_of_mem_zeros {zeros : Nat} {c : Char} (h : c ∈ List.replicate zeros '0') : c.isDigit = true := by
  rw [List.eq_of_mem_replicate h]
  rfl

theorem isFraction_digits {digits : Text} (h : isDigits digits = true) : isFraction ('.' :: digits) = true := by
  rw [← List.append_nil ('.' :: digits)]
  exact isFraction_point h rfl

/-- Leading digits around a point are a number, wherever the point stands. -/
theorem isUnsigned_positional {digits : Text} (h : Number.AreLeading digits) (magnitude : Int) :
    isUnsigned (Number.positional digits magnitude) = true := by
  rw [Number.positional]
  split
  next =>
    have hdigits : isDigits (List.replicate (-magnitude).toNat '0' ++ digits) = true := by
      refine isDigits_iff.mpr ⟨List.append_ne_nil_of_right_ne_nil _ h.nonempty, fun c hc => ?_⟩
      exact (List.mem_append.mp hc).elim isDigit_of_mem_zeros (h.isDigit c)
    rw [List.append_assoc]
    exact @isUnsigned_append ['0'] _ rfl (isFraction_digits hdigits)
  next hmagnitude =>
    simp only
    split
    next => exact isUnsigned_append (isWholePart_of_areLeading (h.append fun c => isDigit_of_mem_zeros)) rfl
    next hlength =>
      have hsome : digits.take magnitude.toNat ≠ [] := by
        rw [ne_eq, List.take_eq_nil_iff, not_or]
        exact ⟨by omega, h.nonempty⟩
      have hsplit := List.take_append_drop magnitude.toNat digits
      refine isUnsigned_append (isWholePart_of_areLeading ?_) (isFraction_digits ?_)
      · exact Number.AreLeading.of_append (by rwa [hsplit]) hsome
      · refine isDigits_iff.mpr ⟨?_, fun c hc => h.isDigit c (List.mem_of_mem_drop hc)⟩
        rw [ne_eq, List.drop_eq_nil_iff]
        exact hlength

/-- The exponent of a power of ten, as it is written. -/
def exponentText (layout : Number.Layout) (power : Int) : Text :=
  'e' :: (if power < 0 then '-' else '+') ::
    (List.replicate (layout.exponentDigits - (Nat.toDigits 10 power.natAbs).length) '0' ++
      Nat.toDigits 10 power.natAbs)

theorem isExponent_exponentText (layout : Number.Layout) (power : Int) :
    isExponent (exponentText layout power) = true := by
  have hdigits : ∀ zeros n, isDigits (List.replicate zeros '0' ++ Nat.toDigits 10 n) = true := fun zeros n =>
    isDigits_iff.mpr ⟨List.append_ne_nil_of_right_ne_nil _ Nat.toDigits_ne_nil, fun c hc =>
      (List.mem_append.mp hc).elim isDigit_of_mem_zeros Text.isDigit_of_mem_toDigits⟩
  rw [exponentText]
  split <;> exact hdigits _ _

/-- Digits with an exponent are the first digit, the others behind a point if there are any, and the exponent. -/
theorem scientific_eq (layout : Number.Layout) (digits : Text) (magnitude : Int) :
    Number.scientific layout digits magnitude =
      digits.take 1 ++ ((if digits.length ≤ 1 then [] else '.' :: digits.drop 1) ++
        exponentText layout (magnitude - 1)) := by
  simp only [Number.scientific, exponentText, List.append_assoc, List.cons_append, List.nil_append]

theorem isUnsigned_scientific {digits : Text} (h : Number.AreLeading digits) (layout : Number.Layout)
    (magnitude : Int) : isUnsigned (Number.scientific layout digits magnitude) = true := by
  have hexponent := isExponent_exponentText layout (magnitude - 1)
  have hfirst : digits.take 1 ≠ [] := by
    rw [ne_eq, List.take_eq_nil_iff, not_or]
    exact ⟨by decide, h.nonempty⟩
  have hwhole : isWholePart (digits.take 1) = true :=
    isWholePart_of_areLeading (Number.AreLeading.of_append (by rwa [List.take_append_drop]) hfirst)
  rw [scientific_eq]
  refine isUnsigned_append hwhole ?_
  split
  next => exact isFraction_of_isExponent hexponent
  next hlength =>
    have hrest : isDigits (digits.drop 1) = true := by
      refine isDigits_iff.mpr ⟨?_, fun c hc => h.isDigit c (List.mem_of_mem_drop hc)⟩
      rw [ne_eq, List.drop_eq_nil_iff]
      exact hlength
    exact isFraction_point hrest hexponent

/-- The fewest digits of a finite number are a number. -/
theorem isNumber_shortest {x : Number.Binary} (h : x.IsFinite) : isNumber x.shortest = true := by
  cases x with
  | infinite negative => cases h
  | undefined => cases h
  | finite negative significand exponent =>
    refine isNumber_signText_append ?_ negative
    split
    next => decide
    next hzero =>
      have hleading := (Number.shortestDigits_spec h (Nat.pos_of_ne_zero hzero)).1
      simp only
      split
      · exact isUnsigned_positional hleading _
      · exact isUnsigned_scientific hleading _ _

/-! ## Characters of binary numbers -/

section Characters

variable {digits : Text} {c : Char}

/-- The fewest digits of a number are digits, whatever its significand and its exponent. -/
theorem isDigit_of_mem_shortestDigits {significand : Nat} {exponent : Int}
    (h : c ∈ (Number.shortestDigits significand exponent).1) : c.isDigit = true := by
  simp only [Number.shortestDigits] at h
  split at h
  next point power _ =>
    obtain ⟨zeros, hall⟩ := Number.withoutFinalZeros_append (Nat.toDigits 10 point)
    refine Text.isDigit_of_mem_toDigits (n := point) ?_
    rw [← hall]
    exact List.mem_append_left _ h
  next =>
    rw [List.mem_singleton.mp h]
    rfl

theorem isNumberChar_of_mem_positional (hdigits : ∀ d ∈ digits, d.isDigit = true) {magnitude : Int}
    (h : c ∈ Number.positional digits magnitude) : isNumberChar c = true := by
  have hnumber : ∀ d ∈ digits, isNumberChar d = true := fun d hd => isNumberChar_of_isDigit (hdigits d hd)
  have hzeros : ∀ zeros : Nat, c ∈ List.replicate zeros '0' → isNumberChar c = true := fun zeros hc =>
    isNumberChar_of_isDigit (isDigit_of_mem_zeros hc)
  simp only [Number.positional] at h
  split at h
  · rcases List.mem_append.mp h with h | h
    · rcases List.mem_append.mp h with h | h
      · exact List.all_eq_true.mp (by decide : "0.".toList.all isNumberChar = true) c h
      · exact hzeros _ h
    · exact hnumber c h
  split at h
  · rcases List.mem_append.mp h with h | h
    · exact (List.mem_append.mp h).elim (hnumber c) (hzeros _)
    · exact List.all_eq_true.mp (by decide : ".0".toList.all isNumberChar = true) c h
  · rcases List.mem_append.mp h with h | h
    · exact hnumber c (List.mem_of_mem_take h)
    · rcases List.mem_cons.mp h with rfl | h
      · rfl
      · exact hnumber c (List.mem_of_mem_drop h)

theorem isNumberChar_of_mem_scientific (hdigits : ∀ d ∈ digits, d.isDigit = true) {layout : Number.Layout}
    {magnitude : Int} (h : c ∈ Number.scientific layout digits magnitude) : isNumberChar c = true := by
  have hnumber : ∀ d ∈ digits, isNumberChar d = true := fun d hd => isNumberChar_of_isDigit (hdigits d hd)
  rw [scientific_eq] at h
  rcases List.mem_append.mp h with h | h
  · exact hnumber c (List.mem_of_mem_take h)
  rcases List.mem_append.mp h with h | h
  · split at h
    · cases h
    · rcases List.mem_cons.mp h with rfl | h
      · rfl
      · exact hnumber c (List.mem_of_mem_drop h)
  · exact isNumberChar_of_mem_exponent (isExponent_exponentText layout (magnitude - 1)) h

/-- The text of a finite number holds characters of numbers, whatever its significand and its exponent. -/
theorem isNumberChar_of_mem_shortest {negative : Bool} {significand : Nat} {exponent : Int}
    (h : c ∈ (Number.Binary.finite negative significand exponent).shortest) : isNumberChar c = true := by
  rcases List.mem_append.mp h with h | h
  · cases negative with
    | true =>
      rw [List.mem_singleton.mp h]
      rfl
    | false => cases h
  split at h
  · exact List.all_eq_true.mp (by decide : "0.0".toList.all isNumberChar = true) c h
  · simp only at h
    split at h
    · exact isNumberChar_of_mem_positional (fun d => isDigit_of_mem_shortestDigits) h
    · exact isNumberChar_of_mem_scientific (fun d => isDigit_of_mem_shortestDigits) h

end Characters

end Wording.Export.Json
