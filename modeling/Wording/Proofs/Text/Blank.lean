import Wording.Text.Blank
import Wording.Proofs.Text.Casing

/-! # White space and letter case

Casing leaves white space as it is and does not look beyond it, and no other character has white space in its small
form. So the small form of a text is made between its white space, piece by piece (`lower_append_cons`), and white space
stands in it exactly where it stands in the text.

That no character of the tables of casing is white space is a fact about lists of spans: the spans are apart
(`Spans.apart`), which is decided, and a code point in one list is then in no span of the other.
-/

set_option autoImplicit false

namespace Wording.Text

/-! ## Spans -/

theorem Spans.exists_of_has {spans : Spans} {n : Nat} (h : spans.has n = true) :
    ∃ span ∈ spans, span.1 ≤ n ∧ n ≤ span.2 := by
  induction spans with
  | nil => cases h
  | cons span rest ih =>
    obtain ⟨first, last⟩ := span
    rw [Spans.has] at h
    split at h
    next => cases h
    next hfirst =>
      split at h
      next hlast => exact ⟨(first, last), List.mem_cons_self, Nat.le_of_not_lt hfirst, hlast⟩
      next =>
        obtain ⟨found, hfound, hin⟩ := ih h
        exact ⟨found, List.mem_cons_of_mem _ hfound, hin⟩

/-- Whether no code point lies in two lists of spans. -/
def Spans.apart (these those : Spans) : Bool :=
  these.all fun a => those.all fun b => a.2 < b.1 || b.2 < a.1

/-- A code point in one of two lists of spans that are apart lies in no span of the other. -/
theorem Spans.not_between_of_apart {these those : Spans} (h : these.apart those = true) {n : Nat}
    (hn : those.has n = true) {a : Nat × Nat} (ha : a ∈ these) : ¬ (a.1 ≤ n ∧ n ≤ a.2) := by
  rintro ⟨hfirst, hlast⟩
  obtain ⟨b, hb, hfirst', hlast'⟩ := Spans.exists_of_has hn
  have hapart := List.all_eq_true.mp (List.all_eq_true.mp h a ha) b hb
  simp only [Bool.or_eq_true, decide_eq_true_eq] at hapart
  omega

/-- A code point in one of two lists of spans that are apart does not lie in the other. -/
theorem Spans.has_eq_false_of_apart {these those : Spans} (h : these.apart those = true) {n : Nat}
    (hn : those.has n = true) : these.has n = false := by
  apply Bool.eq_false_iff.mpr
  intro hthese
  obtain ⟨a, ha, hin⟩ := Spans.exists_of_has hthese
  exact Spans.not_between_of_apart h hn ha hin

theorem isBlank_of_visible {c : Char} (h : 0x21 ≤ c.toNat ∧ c.toNat ≤ 0x7E) : isBlank c = false := by
  have hapart : Spans.apart [(0x21, 0x7E)] blankSpans = true := by decide
  exact Bool.eq_false_iff.mpr fun hblank => Spans.not_between_of_apart hapart hblank List.mem_cons_self h

theorem mem_of_runOf?_eq_some {runs : List CaseRun} {n : Nat} {run : CaseRun}
    (h : runOf? runs n = some run) : run ∈ runs ∧ run.first ≤ n ∧ n ≤ run.last := by
  induction runs with
  | nil => cases h
  | cons first rest ih =>
    rw [runOf?] at h
    split at h
    next => cases h
    next hfirst =>
      split at h
      next hlast =>
        obtain rfl := Option.some.inj h
        exact ⟨List.mem_cons_self, Nat.le_of_not_lt hfirst, hlast⟩
      next =>
        obtain ⟨hmem, hin⟩ := ih h
        exact ⟨List.mem_cons_of_mem _ hmem, hin⟩

/-- The spans of the characters that have a small letter of one character. -/
def capitalSpans : Spans := caseRuns.map fun run => (run.first, run.last)

/-- The spans of these small letters, in the order of their capitals. -/
def smallSpans : Spans := caseRuns.map fun run => (run.lower, run.lower + (run.last - run.first))

/-! ## White space -/

/-- Casing does not look through white space. -/
theorem not_isCaseIgnorable_of_isBlank {c : Char} (h : isBlank c = true) :
    ¬ isCaseIgnorable c = true := by
  have hapart : Spans.apart caseIgnorableSpans blankSpans = true := by decide +kernel
  exact Bool.eq_false_iff.mp (Spans.has_eq_false_of_apart hapart h)

theorem nearestIsCased_cons_of_isBlank {c : Char} (h : isBlank c = true) (t : Text) :
    nearestIsCased (c :: t) = false := by
  have hapart : Spans.apart casedSpans blankSpans = true := by decide +kernel
  rw [nearestIsCased, List.dropWhile_cons_of_neg (not_isCaseIgnorable_of_isBlank h)]
  exact Spans.has_eq_false_of_apart hapart h

theorem smallLetter_of_isBlank {c : Char} (h : isBlank c = true) : smallLetter c = c := by
  have hapart : Spans.apart capitalSpans blankSpans = true := by decide +kernel
  unfold smallLetter
  split
  next run hrun =>
    obtain ⟨hmem, hin⟩ := mem_of_runOf?_eq_some hrun
    exact absurd hin (Spans.not_between_of_apart hapart h (List.mem_map_of_mem hmem))
  next => rfl

/-- The code point of the character with a number is that number, or zero if it is no code point. -/
theorem toNat_ofNat_eq_or (n : Nat) : (Char.ofNat n).toNat = n ∨ (Char.ofNat n).toNat = 0 := by
  by_cases hvalid : n.isValidChar
  · rw [Char.ofNat, dif_pos hvalid]
    exact Or.inl rfl
  · rw [Char.ofNat, dif_neg hvalid]
    exact Or.inr rfl

/-- Only white space has white space for its small letter. -/
theorem isBlank_smallLetter (c : Char) : isBlank (smallLetter c) = isBlank c := by
  have hapart : Spans.apart smallSpans blankSpans = true := by decide +kernel
  cases h : isBlank c with
  | true => rw [smallLetter_of_isBlank h, h]
  | false =>
    apply Bool.eq_false_iff.mpr
    unfold smallLetter
    split
    next run hrun =>
      split
      · intro hblank
        obtain ⟨hmem, hfirst, hlast⟩ := mem_of_runOf?_eq_some hrun
        have hbeyond := Spans.not_between_of_apart hapart hblank (List.mem_map_of_mem hmem)
        rcases toNat_ofNat_eq_or (run.lower + (c.toNat - run.first)) with hcode | hcode
        · rw [hcode] at hbeyond
          simp only at hbeyond
          omega
        · rw [isBlank, hcode] at hblank
          cases hblank
      · exact Bool.eq_false_iff.mp h
    next => exact Bool.eq_false_iff.mp h

/-- Whether a text has white space in it. -/
def hasBlank (t : Text) : Bool := t.any isBlank

theorem hasBlank_append (t u : Text) : hasBlank (t ++ u) = (hasBlank t || hasBlank u) :=
  List.any_append

theorem hasBlank_of_isInfix {piece t : Text} (h : piece <:+: t) (ht : hasBlank t = false) :
    hasBlank piece = false := by
  simp only [hasBlank, List.any_eq_false] at ht ⊢
  exact fun c hc => ht c (h.subset hc)

/-- The small form of a character has white space if the character is white space. -/
theorem hasBlank_lowerBetween (before : Text) (c : Char) (after : Text) :
    hasBlank (lowerBetween before c after) = isBlank c := by
  unfold lowerBetween
  by_cases hsigma : c = 'Σ'
  · subst hsigma
    rw [if_pos rfl]
    split <;> rfl
  · rw [if_neg hsigma]
    by_cases hdot : c = 'İ'
    · subst hdot
      rfl
    · rw [if_neg hdot]
      simp only [hasBlank, List.any_cons, List.any_nil, Bool.or_false, isBlank_smallLetter]

/-- The small form of a text has white space exactly when the text has. -/
theorem hasBlank_lower (t : Text) : hasBlank (lower t) = hasBlank t := by
  have hafter : ∀ before, hasBlank (lowerAfter before t) = hasBlank t := by
    induction t with
    | nil => exact fun _ => rfl
    | cons c rest ih =>
      intro before
      rw [lowerAfter, hasBlank_append, hasBlank_lowerBetween, ih]
      rfl
  exact hafter []

theorem lowerBetween_of_isBlank {c : Char} (h : isBlank c = true) (before after : Text) :
    lowerBetween before c after = [c] := by
  have hsigma : c ≠ 'Σ' := by
    rintro rfl
    cases h
  have hdot : c ≠ 'İ' := by
    rintro rfl
    cases h
  rw [lowerBetween, if_neg hsigma, if_neg hdot, smallLetter_of_isBlank h]

/-- The small form of a text is made on either side of its white space. -/
theorem lower_append_cons {c : Char} (h : isBlank c = true) (before after : Text) :
    lower (before ++ c :: after) = lower before ++ c :: lower after := by
  have hbefore : lowerWithin [] before (c :: after) = lower before := by
    rw [lower, ← lowerWithin_nil_right]
    exact lowerWithin_congr rfl (nearestIsCased_cons_of_isBlank h after) before
  have hafter : lowerAfter (c :: before.reverse) after = lower after := by
    rw [lower, ← lowerWithin_nil_right, ← lowerWithin_nil_right]
    exact lowerWithin_congr (nearestIsCased_cons_of_isBlank h before.reverse) rfl after
  rw [lower, lowerAfter_append, lowerAfter, lowerBetween_of_isBlank h, List.append_nil, hbefore, hafter]
  rfl

theorem trim_of_not_hasBlank {t : Text} (h : hasBlank t = false) : trim t = t := by
  have hkeep : ∀ u : Text, (∀ c ∈ u, isBlank c = false) → u.dropWhile isBlank = u := by
    intro u hu
    cases u with
    | nil => rfl
    | cons c cs => rw [List.dropWhile_cons_of_neg (Bool.eq_false_iff.mp (hu c List.mem_cons_self))]
  have hblank : ∀ c ∈ t, isBlank c = false := fun c hc => by simpa using List.any_eq_false.mp h c hc
  have hreverse : ∀ c ∈ t.reverse, isBlank c = false := fun c hc => hblank c (List.mem_reverse.mp hc)
  rw [trim, trimLeft, hkeep t hblank, trimRight, hkeep _ hreverse, List.reverse_reverse]

/-- What holds of all texts without white space, and of two texts with white space between them if it holds of
both, holds of all texts. -/
theorem blank_induction {motive : Text → Prop}
    (piece : ∀ t, hasBlank t = false → motive t)
    (gap : ∀ before c after, isBlank c = true → motive before → motive after →
      motive (before ++ c :: after)) (t : Text) : motive t := by
  cases hfind : t.find? isBlank with
  | none =>
    apply piece
    rw [hasBlank, List.any_eq_false]
    exact List.find?_eq_none.mp hfind
  | some c =>
    obtain ⟨hc, before, after, ht, hbefore⟩ := List.find?_eq_some_iff_append.mp hfind
    have hpiece : hasBlank before = false := by
      rw [hasBlank, List.any_eq_false]
      exact fun d hd => by simpa using hbefore d hd
    have hshorter : after.length < t.length := by
      rw [ht, List.length_append, List.length_cons]
      omega
    rw [ht]
    exact gap before c after hc (piece before hpiece) (blank_induction piece gap after)
termination_by t.length

end Wording.Text
