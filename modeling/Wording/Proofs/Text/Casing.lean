import Wording.Text.Basic
import Wording.Text.Lowercase

/-! # What a small form owes to the text around it

Only the capital sigma looks at its neighbours, and all it asks of either side is whether the nearest letter there is
cased. So the small form of a text within others depends on these two answers alone (`lowerWithin_congr`), and the small
form of three texts in a row is put together of those of the three, each within the others (`lower_append_append`).

A text keeps its small form wherever it stands if no capital sigma at its edge can turn: none that opens it and may
become a final one, and none that closes it as a final one and may cease to be. Between the edges there is a letter or
something that casing does not look through, so nothing outside is seen from there.
-/

set_option autoImplicit false

namespace Wording.Text

variable {t before before' after after' : Text}

/-! ## The nearest letter -/

theorem not_isCaseIgnorable_sigma : ¬ isCaseIgnorable 'Σ' = true := by decide

/-- Behind characters that casing looks through, the nearest letter is that of what follows. -/
theorem nearestIsCased_append_of_all (h : ∀ c ∈ t, isCaseIgnorable c = true) (after : Text) :
    nearestIsCased (t ++ after) = nearestIsCased after := by
  rw [nearestIsCased, List.dropWhile_append_of_pos h]
  rfl

theorem nearestIsCased_of_all (h : ∀ c ∈ t, isCaseIgnorable c = true) : nearestIsCased t = false := by
  have hnone := nearestIsCased_append_of_all h []
  rwa [List.append_nil] at hnone

/-- A text with a character that casing does not look through has its nearest letter in itself. -/
theorem nearestIsCased_append_of_not_all (h : ¬ ∀ c ∈ t, isCaseIgnorable c = true) (after : Text) :
    nearestIsCased (t ++ after) = nearestIsCased t := by
  induction t with
  | nil => exact absurd (fun c hc => absurd hc List.not_mem_nil) h
  | cons c rest ih =>
    by_cases hc : isCaseIgnorable c = true
    · have hrest : ¬ ∀ d ∈ rest, isCaseIgnorable d = true :=
        fun hall => h (List.forall_mem_cons.mpr ⟨hc, hall⟩)
      simpa only [nearestIsCased, List.cons_append, List.dropWhile_cons_of_pos hc] using ih hrest
    · simp only [nearestIsCased, List.cons_append, List.dropWhile_cons_of_neg hc]

/-- Behind a text, two texts with the same nearest letter have it still. -/
theorem nearestIsCased_append_congr (t : Text) (h : nearestIsCased after = nearestIsCased after') :
    nearestIsCased (t ++ after) = nearestIsCased (t ++ after') := by
  by_cases hall : ∀ c ∈ t, isCaseIgnorable c = true
  · rw [nearestIsCased_append_of_all hall, nearestIsCased_append_of_all hall, h]
  · rw [nearestIsCased_append_of_not_all hall, nearestIsCased_append_of_not_all hall]

/-! ## Pieces between other texts -/

/-- The small form of a character other than the capital sigma is the same everywhere. -/
theorem lowerBetween_of_ne_sigma {c : Char} (h : c ≠ 'Σ') (before before' after after' : Text) :
    lowerBetween before c after = lowerBetween before' c after' := by
  unfold lowerBetween
  rw [if_neg h, if_neg h]

/-- The small form of a character depends on the nearest letters only. -/
theorem lowerBetween_congr (hbefore : nearestIsCased before = nearestIsCased before')
    (hafter : nearestIsCased after = nearestIsCased after') (c : Char) :
    lowerBetween before c after = lowerBetween before' c after' := by
  unfold lowerBetween
  rw [hbefore, hafter]

/-- The small form that a text has between a reversed text and another text. -/
def lowerWithin (before : Text) : Text → Text → Text
  | [], _ => []
  | c :: rest, after => lowerBetween before c (rest ++ after) ++ lowerWithin (c :: before) rest after

theorem lowerWithin_nil_right (before t : Text) : lowerWithin before t [] = lowerAfter before t := by
  induction t generalizing before with
  | nil => rfl
  | cons c rest ih => rw [lowerWithin, lowerAfter, ih, List.append_nil]

/-- The small form of a text that continues is that of the text within, followed by that of the rest. -/
theorem lowerAfter_append (before t after : Text) :
    lowerAfter before (t ++ after) =
      lowerWithin before t after ++ lowerAfter (t.reverse ++ before) after := by
  induction t generalizing before with
  | nil => rfl
  | cons c rest ih =>
    rw [List.cons_append, lowerAfter, ih, lowerWithin, List.append_assoc, List.reverse_cons,
      List.append_assoc, List.singleton_append]

/-- The small form of a text within others depends on the nearest letters outside it only. -/
theorem lowerWithin_congr (hbefore : nearestIsCased before = nearestIsCased before')
    (hafter : nearestIsCased after = nearestIsCased after') (t : Text) :
    lowerWithin before t after = lowerWithin before' t after' := by
  induction t generalizing before before' with
  | nil => rfl
  | cons c rest ih =>
    have hrest := nearestIsCased_append_congr rest hafter
    have hnext : nearestIsCased (c :: before) = nearestIsCased (c :: before') :=
      nearestIsCased_append_congr [c] hbefore
    rw [lowerWithin, lowerWithin, lowerBetween_congr hbefore hrest, ih hnext]

theorem lower_append_append (before t after : Text) :
    lower (before ++ t ++ after) =
      lowerWithin [] before (t ++ after) ++ lowerWithin before.reverse t after ++
        lowerAfter (t.reverse ++ before.reverse) after := by
  rw [lower, List.append_assoc, lowerAfter_append, List.append_nil, lowerAfter_append,
    List.append_assoc]

/-! ## Sigmas at the edge -/

/-- Whether a capital sigma opens the text, so that a letter before the text may make it a final one. -/
def opensWithSigma (t : Text) : Bool :=
  match t.dropWhile isCaseIgnorable with
  | c :: rest => c = 'Σ' && !nearestIsCased rest
  | [] => false

/-- Whether a capital sigma closes the text as a final one, so that a letter behind the text may make it a
common one. -/
def closesWithSigma (t : Text) : Bool :=
  match t.reverse.dropWhile isCaseIgnorable with
  | c :: rest => c = 'Σ' && nearestIsCased rest
  | [] => false

/-- Whether a capital sigma at the edge of the text may turn. -/
def sigmaAtEdge (t : Text) : Bool := opensWithSigma t || closesWithSigma t

/-- The first letter of a text opens it if it is a capital sigma with no letter next to it. -/
theorem opensWithSigma_append (h : ∀ c ∈ before, isCaseIgnorable c = true) (after : Text) :
    opensWithSigma (before ++ 'Σ' :: after) = !nearestIsCased after := by
  rw [opensWithSigma, List.dropWhile_append_of_pos h,
    List.dropWhile_cons_of_neg not_isCaseIgnorable_sigma]
  simp only [decide_true, Bool.true_and]

/-- The last letter of a text closes it if it is a capital sigma with a letter next to it. -/
theorem closesWithSigma_append (h : ∀ c ∈ after, isCaseIgnorable c = true) (before : Text) :
    closesWithSigma (before ++ 'Σ' :: after) = nearestIsCased before.reverse := by
  have hrev : ∀ c ∈ after.reverse, isCaseIgnorable c = true :=
    fun c hc => h c (List.mem_reverse.mp hc)
  rw [closesWithSigma, List.reverse_append, List.reverse_cons, List.append_assoc,
    List.dropWhile_append_of_pos hrev, List.singleton_append,
    List.dropWhile_cons_of_neg not_isCaseIgnorable_sigma]
  simp only [decide_true, Bool.true_and]

/-- A capital sigma that opens a text stands behind characters that casing looks through and has no letter
next to it. -/
theorem exists_of_opensWithSigma (h : opensWithSigma t = true) :
    ∃ before after, t = before ++ 'Σ' :: after ∧ (∀ c ∈ before, isCaseIgnorable c = true) ∧
      nearestIsCased after = false := by
  unfold opensWithSigma at h
  split at h
  next c rest hdrop =>
    rw [Bool.and_eq_true, decide_eq_true_eq, Bool.not_eq_true'] at h
    obtain ⟨rfl, hrest⟩ := h
    refine ⟨t.takeWhile isCaseIgnorable, rest, ?_, ?_, hrest⟩
    · rw [← hdrop, List.takeWhile_append_dropWhile]
    · exact List.all_eq_true.mp List.all_takeWhile
  next => cases h

/-- A capital sigma that closes a text stands before characters that casing looks through and has a letter
next to it. -/
theorem exists_of_closesWithSigma (h : closesWithSigma t = true) :
    ∃ before after, t = before ++ 'Σ' :: after ∧ (∀ c ∈ after, isCaseIgnorable c = true) ∧
      nearestIsCased before.reverse = true := by
  unfold closesWithSigma at h
  split at h
  next c rest hdrop =>
    rw [Bool.and_eq_true, decide_eq_true_eq] at h
    obtain ⟨rfl, hrest⟩ := h
    refine ⟨rest.reverse, (t.reverse.takeWhile isCaseIgnorable).reverse, ?_, ?_, ?_⟩
    · have hsplit := List.takeWhile_append_dropWhile (p := isCaseIgnorable) (l := t.reverse)
      rw [hdrop] at hsplit
      have hback := congrArg List.reverse hsplit
      rw [List.reverse_reverse, List.reverse_append, List.reverse_cons, List.append_assoc,
        List.singleton_append] at hback
      exact hback.symm
    · exact fun c hc => List.all_eq_true.mp List.all_takeWhile c (List.mem_reverse.mp hc)
    · rwa [List.reverse_reverse]
  next => cases h

theorem sigmaAtEdge_of_notMem (h : 'Σ' ∉ t) : sigmaAtEdge t = false := by
  rw [sigmaAtEdge, Bool.or_eq_false_iff]
  constructor
  · apply Bool.eq_false_iff.mpr
    intro hopens
    obtain ⟨before, after, rfl, -⟩ := exists_of_opensWithSigma hopens
    exact h (List.mem_append_right _ List.mem_cons_self)
  · apply Bool.eq_false_iff.mpr
    intro hcloses
    obtain ⟨before, after, rfl, -⟩ := exists_of_closesWithSigma hcloses
    exact h (List.mem_append_right _ List.mem_cons_self)

/-- The capital sigma becomes a final one behind a letter and before none. -/
theorem lowerBetween_sigma (before after : Text) :
    lowerBetween before 'Σ' after =
      if nearestIsCased before && !nearestIsCased after then ['ς'] else ['σ'] :=
  if_pos rfl

/-- A capital sigma that cannot turn has the same small form whatever stands around the text. -/
theorem lowerBetween_sigma_of_not_sigmaAtEdge {first rest : Text}
    (h : sigmaAtEdge (first ++ 'Σ' :: rest) = false) (before after : Text) :
    lowerBetween (first.reverse ++ before) 'Σ' (rest ++ after) = lowerBetween first.reverse 'Σ' rest := by
  rw [sigmaAtEdge, Bool.or_eq_false_iff] at h
  rw [lowerBetween_sigma, lowerBetween_sigma]
  -- What stands outside counts only on a side on which the text itself has no letter.
  by_cases hfirst : ∀ c ∈ first, isCaseIgnorable c = true
  · have hcased : nearestIsCased rest = true := by
      have hopens := h.1
      rwa [opensWithSigma_append hfirst, Bool.not_eq_false'] at hopens
    have hrest : ¬ ∀ c ∈ rest, isCaseIgnorable c = true := by
      intro hall
      rw [nearestIsCased_of_all hall] at hcased
      cases hcased
    rw [nearestIsCased_append_of_not_all hrest, hcased, Bool.not_true, Bool.and_false, Bool.and_false]
  · have hrev : ¬ ∀ c ∈ first.reverse, isCaseIgnorable c = true :=
      fun hall => hfirst fun c hc => hall c (List.mem_reverse.mpr hc)
    rw [nearestIsCased_append_of_not_all hrev]
    by_cases hrest : ∀ c ∈ rest, isCaseIgnorable c = true
    · have hcased : nearestIsCased first.reverse = false := by
        rw [← closesWithSigma_append hrest]
        exact h.2
      rw [hcased, Bool.false_and, Bool.false_and]
    · rw [nearestIsCased_append_of_not_all hrest]

/-- Without a sigma at the edge that may turn, the rest of a text behind some of it has the same small form
whatever stands around the text. -/
theorem lowerWithin_of_not_sigmaAtEdge (first rest : Text)
    (h : sigmaAtEdge (first ++ rest) = false) (before after : Text) :
    lowerWithin (first.reverse ++ before) rest after = lowerAfter first.reverse rest := by
  induction rest generalizing first with
  | nil => rfl
  | cons c rest ih =>
    have hletter : lowerBetween (first.reverse ++ before) c (rest ++ after) =
        lowerBetween first.reverse c rest := by
      by_cases hc : c = 'Σ'
      · subst hc
        exact lowerBetween_sigma_of_not_sigmaAtEdge h before after
      · exact lowerBetween_of_ne_sigma hc _ _ _ _
    have hlater := ih (first ++ [c]) (by rwa [List.append_assoc, List.singleton_append])
    rw [List.reverse_append, List.reverse_singleton, List.singleton_append, List.cons_append] at hlater
    rw [lowerWithin, lowerAfter, hletter, hlater]

/-! ## Texts that keep their small form -/

/-- That the small form of a text stands in that of every text that holds it. -/
def KeepsSmallForm (t : Text) : Prop := ∀ whole : Text, t <:+: whole → lower t <:+: lower whole

/-- Without a sigma at the edge that may turn, a text keeps its small form. -/
theorem keepsSmallForm_of_not_sigmaAtEdge (h : sigmaAtEdge t = false) : KeepsSmallForm t := by
  rintro whole ⟨before, after, rfl⟩
  have hwithin := lowerWithin_of_not_sigmaAtEdge [] t h before.reverse after
  rw [List.reverse_nil, List.nil_append] at hwithin
  rw [lower_append_append, hwithin]
  exact List.infix_append _ _ _

end Wording.Text
