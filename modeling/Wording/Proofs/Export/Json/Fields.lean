import Wording.Export.Json.Fields
import Wording.Proofs.Export.Json.Number

/-! # Reading the fields of documents

The text that an integer is written as is read as the integer, and the fewest digits of a finite binary number as this
number: the digits are cut into what stands before the point, behind it and in the exponent, and what is put together
from these is rounded to the number (`shortestDigits_spec`). Digits with a point or an exponent are no run of digits, so
no text is read both ways. The objects that stand for terms and findings are then read as the terms and findings, field
by field.
-/

set_option autoImplicit false

namespace Wording.Export.Json

/-! ## Numbers -/

/-- A sign before a text without one tells whether the number is negative. -/
theorem quantityOfText_signText_append {t : Text} (h : isUnsigned t = true) (negative : Bool) :
    quantityOfText (Number.signText negative ++ t) = quantityOfUnsigned negative t := by
  cases negative with
  | true => rfl
  | false =>
    rw [Number.signText, if_neg Bool.false_ne_true, List.nil_append, quantityOfText]
    exact ne_minus_of_isUnsigned h

/-- The digits of an integer are read as the integer. -/
theorem quantityOfText_ofInt (n : Int) : quantityOfText (Text.ofInt n) = .whole n := by
  have hdigits : ∀ k, isDigits (Nat.toDigits 10 k) = true := fun k =>
    isDigits_iff.mpr ⟨Nat.toDigits_ne_nil, fun _ => Text.isDigit_of_mem_toDigits⟩
  have hread : ∀ negative k, quantityOfText (Number.signText negative ++ Nat.toDigits 10 k) =
      .whole (if negative then -(k : Int) else k) := by
    intro negative k
    rw [quantityOfText_signText_append (isUnsigned_toDigits k), quantityOfUnsigned, if_pos (hdigits k), natural,
      Nat.ofDigitChars_ten_toDigits]
  cases n with
  | ofNat k => exact hread false k
  | negSucc k => exact hread true (k + 1)

theorem asWhole?_ofInt (n : Int) : asWhole? (ofInt n) = some n := by
  rw [asWhole?, ofInt, asQuantity?, quantityOfText_ofInt]

/-! ## Binary numbers -/

theorem isDigits_append_cons {before behind : Text} {c : Char} (h : c.isDigit = false) :
    isDigits (before ++ c :: behind) = false := by
  rw [Bool.eq_false_iff, ne_eq, isDigits_iff]
  intro hdigits
  rw [hdigits.2 c (List.mem_append_right _ List.mem_cons_self)] at h
  cases h

theorem isDigits_positional (digits : Text) (magnitude : Int) :
    isDigits (Number.positional digits magnitude) = false := by
  rw [Number.positional]
  split
  · rw [List.append_assoc]
    exact @isDigits_append_cons ['0'] _ '.' rfl
  · simp only
    split
    · exact @isDigits_append_cons _ ['0'] '.' rfl
    · exact isDigits_append_cons rfl

theorem isDigits_scientific (layout : Number.Layout) (digits : Text) (magnitude : Int) :
    isDigits (Number.scientific layout digits magnitude) = false := by
  rw [scientific_eq, ← List.append_assoc, exponentText]
  exact isDigits_append_cons rfl

theorem natural_zeros_append (zeros : Nat) (digits : Text) :
    natural (List.replicate zeros '0' ++ digits) = natural digits := by
  rw [natural, Nat.ofDigitChars_append, Nat.ofDigitChars_replicate_zero, Nat.mul_zero, natural]

theorem binaryOfUnsigned_append {whole ending : Text} (hwhole : ∀ c ∈ whole, c.isDigit = true)
    (hending : isExponent ending = true) (negative : Bool) :
    binaryOfUnsigned negative (whole ++ ending) =
      .ofDecimal negative (natural whole) (exponentOfText ending) := by
  obtain ⟨htake, hdrop⟩ := takeWhile_dropWhile_digits hwhole fun c hc => (isDigit_head?_of_isExponent hending hc).1
  rw [binaryOfUnsigned, htake, hdrop]
  simp only
  split
  next => exact absurd rfl (isDigit_head?_of_isExponent hending rfl).2
  next => rfl

/-- Digits around a point and an exponent are read as a binary number. -/
theorem binaryOfUnsigned_point {whole fraction ending : Text} (hwhole : ∀ c ∈ whole, c.isDigit = true)
    (hfraction : ∀ c ∈ fraction, c.isDigit = true) (hending : isExponent ending = true) (negative : Bool) :
    binaryOfUnsigned negative (whole ++ '.' :: (fraction ++ ending)) =
      .ofDecimal negative (natural (whole ++ fraction)) (exponentOfText ending - fraction.length) := by
  have hpoint : ∀ c, ('.' :: (fraction ++ ending)).head? = some c → c.isDigit = false := by
    intro c hc
    cases hc
    rfl
  obtain ⟨htake, hdrop⟩ := takeWhile_dropWhile_digits hwhole hpoint
  obtain ⟨htakeFraction, hdropFraction⟩ := takeWhile_dropWhile_digits hfraction
    fun c hc => (isDigit_head?_of_isExponent hending hc).1
  rw [binaryOfUnsigned, htake, hdrop]
  simp only [htakeFraction, hdropFraction]

/-- Digits around a point are read as decimal digits with the power of ten that the point gives them. -/
theorem exists_binaryOfUnsigned_positional {digits : Text} (h : ∀ c ∈ digits, c.isDigit = true) (magnitude : Int)
    (negative : Bool) :
    ∃ n power, binaryOfUnsigned negative (Number.positional digits magnitude) = .ofDecimal negative n power ∧
      (n * 10 ^ power : ℚ) = natural digits * 10 ^ (magnitude - digits.length) := by
  have hread : ∀ {whole fraction : Text}, (∀ c ∈ whole, c.isDigit = true) → (∀ c ∈ fraction, c.isDigit = true) →
      binaryOfUnsigned negative (whole ++ '.' :: fraction) =
        .ofDecimal negative (natural (whole ++ fraction)) (-(fraction.length : Int)) := by
    intro whole fraction hwhole hfraction
    have hpoint := @binaryOfUnsigned_point whole fraction [] hwhole hfraction rfl negative
    rw [List.append_nil, exponentOfText, zero_sub] at hpoint
    exact hpoint
  have hzero : ∀ c ∈ List.replicate 1 '0', c.isDigit = true := fun c hc => isDigit_of_mem_zeros hc
  rw [Number.positional]
  split
  next hmagnitude =>
    have hfraction : ∀ c ∈ List.replicate (-magnitude).toNat '0' ++ digits, c.isDigit = true := fun c hc =>
      (List.mem_append.mp hc).elim isDigit_of_mem_zeros (h c)
    refine ⟨natural (['0'] ++ (List.replicate (-magnitude).toNat '0' ++ digits)),
      -((List.replicate (-magnitude).toNat '0' ++ digits).length : Int), ?_, ?_⟩
    · rw [List.append_assoc]
      exact hread hzero hfraction
    have hpower : -((List.replicate (-magnitude).toNat '0' ++ digits).length : Int) = magnitude - digits.length := by
      rw [List.length_append, List.length_replicate]
      push_cast
      omega
    rw [hpower, List.singleton_append, ← List.cons_append, ← List.replicate_succ, natural_zeros_append]
  next hmagnitude =>
    simp only
    split
    next hlength =>
      have hwhole : ∀ c ∈ digits ++ List.replicate (magnitude.toNat - digits.length) '0', c.isDigit = true :=
        fun c hc => (List.mem_append.mp hc).elim (h c) isDigit_of_mem_zeros
      have hvalue : natural (digits ++ List.replicate (magnitude.toNat - digits.length) '0' ++ ['0']) =
          10 * (10 ^ (magnitude.toNat - digits.length) * natural digits) := by
        rw [natural, Nat.ofDigitChars_append, Nat.ofDigitChars_append, Nat.ofDigitChars_replicate_zero,
          Nat.ofDigitChars_cons, Nat.ofDigitChars_nil, natural]
        rfl
      have hpower : magnitude - digits.length = ((magnitude.toNat - digits.length : Nat) : Int) := by omega
      refine ⟨natural (digits ++ List.replicate (magnitude.toNat - digits.length) '0' ++ ['0']), -1,
        hread hwhole hzero, ?_⟩
      rw [hvalue, hpower, zpow_natCast, zpow_neg_one]
      push_cast
      ring
    next hlength =>
      refine ⟨_, _, hread (fun c hc => h c (List.mem_of_mem_take hc)) (fun c hc => h c (List.mem_of_mem_drop hc)), ?_⟩
      have hpower : -((digits.drop magnitude.toNat).length : Int) = magnitude - digits.length := by
        rw [List.length_drop]
        omega
      rw [hpower, List.take_append_drop]

theorem exponentOfText_exponentText (layout : Number.Layout) (power : Int) :
    exponentOfText (exponentText layout power) = power := by
  have hdigits : ∀ zeros n, natural (List.replicate zeros '0' ++ Nat.toDigits 10 n) = n := by
    intro zeros n
    rw [natural_zeros_append, natural, Nat.ofDigitChars_ten_toDigits]
  rw [exponentText]
  split
  next hnegative =>
    rw [exponentOfText, hdigits]
    omega
  next hnonneg =>
    rw [exponentOfText, dropSign, hdigits]
    · omega
    · rintro _ ⟨⟩

/-- Leading digits with an exponent are read as decimal digits with the power of ten that the exponent gives them. -/
theorem binaryOfUnsigned_scientific {digits : Text} (h : Number.AreLeading digits) (layout : Number.Layout)
    (magnitude : Int) (negative : Bool) :
    binaryOfUnsigned negative (Number.scientific layout digits magnitude) =
      .ofDecimal negative (natural digits) (magnitude - digits.length) := by
  have hexponent := isExponent_exponentText layout (magnitude - 1)
  have hfirst : ∀ c ∈ digits.take 1, c.isDigit = true := fun c hc => h.isDigit c (List.mem_of_mem_take hc)
  rw [scientific_eq]
  split
  next hlength =>
    have hone : digits.length = 1 := Nat.le_antisymm hlength (List.length_pos_iff.mpr h.nonempty)
    rw [List.nil_append, binaryOfUnsigned_append hfirst hexponent, exponentOfText_exponentText,
      List.take_of_length_le hlength, hone]
    rfl
  next hlength =>
    rw [List.cons_append, binaryOfUnsigned_point hfirst (fun c hc => h.isDigit c (List.mem_of_mem_drop hc)) hexponent,
      List.take_append_drop, exponentOfText_exponentText, List.length_drop]
    congr 1
    omega

/-- The fewest digits of a finite number are read as the number. -/
theorem quantityOfText_shortest {x : Number.Binary} (h : x.IsFinite) : quantityOfText x.shortest = .binary x := by
  cases x with
  | infinite negative => cases h
  | undefined => cases h
  | finite negative significand exponent =>
    have hformat : Number.Binary.InFormat significand exponent := h
    rw [Number.Binary.shortest]
    split
    next hzero =>
      rw [hzero, hformat.eq_least (by omega)]
      cases negative <;> rfl
    next hne =>
      have hpositive := Nat.pos_of_ne_zero hne
      obtain ⟨hleading, hrounds⟩ := Number.shortestDigits_spec hformat hpositive
      simp only
      split
      · obtain ⟨n, power, hread, hvalue⟩ := exists_binaryOfUnsigned_positional hleading.isDigit
          (Number.shortestDigits significand exponent).2 negative
        rw [quantityOfText_signText_append (isUnsigned_positional hleading _), quantityOfUnsigned, isDigits_positional,
          if_neg Bool.false_ne_true, hread]
        exact congrArg _ (Number.ofDecimal_of_roundsTo hformat hpositive (by rw [hvalue]; exact hrounds) negative)
      · rw [quantityOfText_signText_append (isUnsigned_scientific hleading _ _), quantityOfUnsigned,
          isDigits_scientific, if_neg Bool.false_ne_true, binaryOfUnsigned_scientific hleading]
        exact congrArg _ (Number.ofDecimal_of_roundsTo hformat hpositive hrounds negative)

/-! ## Terms and findings -/

theorem ofText?_text_category (c : Category) : Category.ofText? c.text = some c := by cases c <;> rfl

theorem ofText?_text_severity (s : Severity) : Severity.ofText? s.text = some s := by cases s <;> rfl

theorem ofText_text_kind (k : TokenKind) : TokenKind.ofText k.text = .ok k := by cases k <;> rfl

/-- Where each item is read from the value that stands for it, the items are read from the values. -/
theorem mapM_map_eq_some {α : Type} {write : α → Json} {read : Json → Option α} (h : ∀ a, read (write a) = some a)
    (items : List α) : (items.map write).mapM read = some items := by
  induction items with
  | nil => rfl
  | cons item rest ih =>
    rw [List.map_cons, List.mapM_cons, h, ih]
    rfl

theorem term?_ofTerm (t : Term) : term? (ofTerm t) = some t := by
  have hcategory : textUnder? (ofTerm t) "category" = some t.category.text := rfl
  have hseverity : textUnder? (ofTerm t) "severity" = some t.severity.text := rfl
  have hsuggestions : itemsUnder? (ofTerm t) "suggestions" = some (t.suggestions.map .string) := rfl
  have hid : textUnder? (ofTerm t) "id" = some t.id := rfl
  have htext : textUnder? (ofTerm t) "term" = some t.text := rfl
  have htexts : (t.suggestions.map .string).mapM asText? = some t.suggestions :=
    @mapM_map_eq_some _ Json.string asText? (fun _ => rfl) _
  have hmake : Term.make t.id t.text t.category t.severity t.suggestions = .ok t := dif_pos t.notBlank
  simp only [term?, hcategory, hseverity, hsuggestions, hid, htext, htexts, hmake, ofText?_text_category,
    ofText?_text_severity, Option.bind_eq_bind, Option.bind_some]
  rfl

/-- The object of a finding is read as the finding. -/
theorem finding?_ofFinding (f : Finding) : finding? (ofFinding f) = some f := by
  have hkind : textUnder? (ofFinding f) "type" = some f.kind.text := rfl
  have hterm : field? (ofFinding f) "biasedTerm" = some (ofTerm f.term) := rfl
  have hline : wholeUnder? (ofFinding f) "line" = some f.line := asWhole?_ofInt f.line
  have hcolumn : wholeUnder? (ofFinding f) "column" = some f.column := asWhole?_ofInt f.column
  have hcontent : textUnder? (ofFinding f) "content" = some f.content := rfl
  have hcontext : textUnder? (ofFinding f) "context" = some f.context := rfl
  simp only [finding?, hkind, hterm, hline, hcolumn, hcontent, hcontext, ofText_text_kind, term?_ofTerm,
    Option.bind_eq_bind, Option.bind_some]
  rfl

end Wording.Export.Json
