import Wording.Proofs.Export.Json.Token

/-! # The characters of a document

Whatever stands in the strings of a value, its text holds only line feeds and characters of ASCII that are printed as
they are, if its numbers hold no others. The proof follows the writer: characters, strings, gaps, and then the value by
induction, where the numbers are a premise (`HasPlainNumbers`) because a value can hold any text for a number. Of the
values that stand for reports that premise is proved.
-/

set_option autoImplicit false

namespace Wording.Export.Json

/-! ## Classes of texts -/

/-- That a text holds only characters of ASCII. -/
def IsAscii (t : Text) : Prop := ∀ c ∈ t, c.toNat < 0x80

/-- That a text holds only line feeds and characters of ASCII that are printed as they are. -/
def IsPlainAscii (t : Text) : Prop := ∀ c ∈ t, c = '\n' ∨ ' ' ≤ c ∧ c ≤ '~'

variable {t u : Text} {v : Json}

@[simp] theorem isPlainAscii_cons {c : Char} :
    IsPlainAscii (c :: t) ↔ (c = '\n' ∨ ' ' ≤ c ∧ c ≤ '~') ∧ IsPlainAscii t :=
  List.forall_mem_cons

@[simp] theorem isPlainAscii_append : IsPlainAscii (t ++ u) ↔ IsPlainAscii t ∧ IsPlainAscii u := List.forall_mem_append

@[simp] theorem isPlainAscii_nil : IsPlainAscii [] := nofun

/-- Whether a text holds only such characters can be asked of one after the other. -/
theorem isPlainAscii_iff_all : IsPlainAscii t ↔ t.all (fun c => c = '\n' ∨ ' ' ≤ c ∧ c ≤ '~') = true := by
  simp only [IsPlainAscii, List.all_eq_true, decide_eq_true_eq]

/-- Characters that are printed as they are belong to ASCII, and so does the line feed. -/
theorem IsPlainAscii.isAscii (h : IsPlainAscii t) : IsAscii t := by
  intro c hc
  rcases h c hc with rfl | ⟨-, hle⟩
  · decide
  · exact Nat.lt_of_le_of_lt hle (by decide)

theorem isPlainAscii_of_isNumberChar (h : ∀ c ∈ t, isNumberChar c = true) : IsPlainAscii t := by
  intro c hc
  have hc := h c hc
  simp only [isNumberChar, Bool.or_eq_true, List.contains_iff_mem, List.mem_cons, List.not_mem_nil, or_false] at hc
  rcases hc with hdigit | rfl | rfl | rfl | rfl | rfl
  · obtain ⟨hlow, hhigh⟩ := Char.isDigit_iff_toNat.mp hdigit
    exact .inr ⟨Nat.le_trans (by decide) hlow, Nat.le_trans hhigh (by decide)⟩
  all_goals exact .inr (by decide)

theorem isPlainAscii_of_isNumber (h : isNumber t = true) : IsPlainAscii t := by
  obtain ⟨c, rest, rfl, hfirst, hrest⟩ := exists_cons_of_isNumber h
  refine isPlainAscii_of_isNumberChar (List.forall_mem_cons.mpr ⟨?_, hrest⟩)
  rcases hfirst with rfl | hc
  · rfl
  · exact isNumberChar_of_isDigit hc

/-! ## The text of a value -/

theorem isPlainAscii_codeUnit {n : Nat} (h : n < 0x10000) : IsPlainAscii (codeUnit n) := by
  have hdigit : ∀ d < 16, ' ' ≤ Nat.digitChar d ∧ Nat.digitChar d ≤ '~' := by decide
  rw [codeUnit, Text.hexPadded_four h]
  simp only [isPlainAscii_append, isPlainAscii_cons, isPlainAscii_nil, and_true]
  exact ⟨by decide, .inr (hdigit _ (by omega)), .inr (hdigit _ (by omega)), .inr (hdigit _ (by omega)),
    .inr (hdigit _ (by omega))⟩

/-- Inside a string, a character is written in plain ASCII. -/
theorem isPlainAscii_charText (c : Char) : IsPlainAscii (charText c) := by
  rw [charText]
  split
  next h =>
    rw [Bool.or_eq_true, decide_eq_true_eq, decide_eq_true_eq] at h
    rcases h with rfl | rfl <;> simp only [isPlainAscii_cons, isPlainAscii_nil, and_true] <;> decide
  next =>
    iterate 5 (split; next => simp only [isPlainAscii_cons, isPlainAscii_nil, and_true]; decide)
    split
    next hprinted =>
      rw [Bool.and_eq_true, decide_eq_true_eq, decide_eq_true_eq] at hprinted
      exact isPlainAscii_cons.mpr ⟨.inr hprinted, isPlainAscii_nil⟩
    split
    next hbasic => exact isPlainAscii_codeUnit hbasic
    next =>
      have hvalid : c.toNat < 0xD800 ∨ 0xDFFF < c.toNat ∧ c.toNat < 0x110000 := c.valid
      exact isPlainAscii_append.mpr ⟨isPlainAscii_codeUnit (by omega), isPlainAscii_codeUnit (by omega)⟩

theorem isPlainAscii_stringText (t : Text) : IsPlainAscii (stringText t) := by
  have hchars : IsPlainAscii (t.flatMap charText) := by
    intro c hc
    obtain ⟨d, -, hmem⟩ := List.mem_flatMap.mp hc
    exact isPlainAscii_charText d c hmem
  simp only [stringText, isPlainAscii_append, isPlainAscii_cons, hchars, isPlainAscii_nil, and_true]
  decide

theorem isPlainAscii_join {separator : Text} (hseparator : IsPlainAscii separator) {parts : List Text}
    (h : ∀ t ∈ parts, IsPlainAscii t) : IsPlainAscii (Text.join separator parts) := by
  induction parts with
  | nil => exact isPlainAscii_nil
  | cons first rest ih =>
    rw [List.forall_mem_cons] at h
    cases rest with
    | nil => exact h.1
    | cons next others => exact isPlainAscii_append.mpr ⟨isPlainAscii_append.mpr ⟨h.1, hseparator⟩, ih h.2⟩

theorem IsGap.isPlainAscii (h : IsGap t) : IsPlainAscii t := by
  intro c hc
  rcases h c hc with rfl | rfl <;> decide

/-- Texts between brackets are plain ASCII if the texts and the brackets are. -/
theorem isPlainAscii_bracketed {opening closing : Char} (hopening : ' ' ≤ opening ∧ opening ≤ '~')
    (hclosing : ' ' ≤ closing ∧ closing ≤ '~') (indent : Option Int) (depth : Nat) {written : List Text}
    (h : ∀ t ∈ written, IsPlainAscii t) : IsPlainAscii (bracketed opening closing (gaps indent depth) written) := by
  obtain ⟨hbefore, ⟨gap, hgap, hbetween⟩, hbehind⟩ := isGap_gaps indent depth
  have hjoin : IsPlainAscii (Text.join (gaps indent depth).between written) := by
    refine isPlainAscii_join ?_ h
    rw [hbetween]
    exact isPlainAscii_cons.mpr ⟨by decide, hgap.isPlainAscii⟩
  rw [bracketed]
  split
  · simp only [isPlainAscii_cons, hopening, hclosing, isPlainAscii_nil, and_self, or_true]
  · simp only [isPlainAscii_cons, isPlainAscii_append, hopening, hbefore.isPlainAscii, hjoin, hbehind.isPlainAscii,
      hclosing, isPlainAscii_nil, and_self, or_true]

/-- That the numbers of a value are written in plain ASCII, whether or not they are numbers. -/
inductive HasPlainNumbers : Json → Prop
  | number {t : Text} (h : IsPlainAscii t) : HasPlainNumbers (.number t)
  | string (t : Text) : HasPlainNumbers (.string t)
  | array {items : List Json} (h : ∀ v ∈ items, HasPlainNumbers v) : HasPlainNumbers (.array items)
  | object {fields : List (Text × Json)} (h : ∀ field ∈ fields, HasPlainNumbers field.2) :
    HasPlainNumbers (.object fields)

theorem WellFormed.hasPlainNumbers (h : WellFormed v) : HasPlainNumbers v := by
  induction h with
  | number hnumber => exact .number (isPlainAscii_of_isNumber hnumber)
  | string t => exact .string t
  | array _ ih => exact .array ih
  | object _ ih => exact .object ih

/-- A value is written in plain ASCII if its numbers are. -/
theorem isPlainAscii_textAt (h : HasPlainNumbers v) (indent : Option Int) (depth : Nat) :
    IsPlainAscii (textAt indent depth v) := by
  induction h generalizing depth with
  | number hnumber => exact hnumber
  | string t => exact isPlainAscii_stringText t
  | array _ ih =>
    refine isPlainAscii_bracketed (by decide) (by decide) _ _ ?_
    rw [itemTexts_eq_map, List.forall_mem_map]
    exact fun v hv => ih v hv (depth + 1)
  | object _ ih =>
    refine isPlainAscii_bracketed (by decide) (by decide) _ _ ?_
    rw [fieldTexts_eq_map, List.forall_mem_map]
    intro field hfield
    simp only [isPlainAscii_append, isPlainAscii_cons, isPlainAscii_nil, isPlainAscii_stringText, ih field hfield,
      and_true, true_and]
    decide

/-- A document is written in ASCII. -/
theorem isAscii_text (h : WellFormed v) (indent : Option Int) : IsAscii (text indent v) :=
  (isPlainAscii_textAt h.hasPlainNumbers indent 0).isAscii

end Wording.Export.Json
