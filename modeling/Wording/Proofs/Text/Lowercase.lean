import Wording.Text.Blank
import Wording.Text.Lowercase
import Wording.Proofs.Text.Search

/-! # The lengths and the letters of small forms

The small form of a text is longer than the text by its capital I's with a dot, as these become two characters and no
other letter does (`length_lower`). Without that letter and the capital sigma, a small form is made character by
character, so every text is made small in pieces (`lowersInPieces`).

With the capital sigma this fails, but what a text adds to a small form is still the small form of some text of the same
length: a sigma that becomes a final one is replaced by the final one itself, which stays. That text is a spelling of
the first, letter by letter (`Spells`), and a piece of a small form is the small form of a spelling of a piece.
-/

set_option autoImplicit false

namespace Wording.Text

variable {t : Text}

/-- The small form of a character has two characters for the capital I with a dot, else one. -/
theorem length_lowerBetween (before : Text) (c : Char) (after : Text) :
    (lowerBetween before c after).length = if c = 'İ' then 2 else 1 := by
  unfold lowerBetween
  by_cases hsigma : c = 'Σ'
  · subst hsigma
    have hother : ¬ 'Σ' = 'İ' := by decide
    rw [if_pos rfl, if_neg hother]
    split <;> rfl
  · rw [if_neg hsigma]
    split <;> rfl

/-- The small form of a text is longer than the text by its capital I's with a dot. -/
theorem length_lowerAfter (before t : Text) :
    (lowerAfter before t).length = t.length + t.count 'İ' := by
  induction t generalizing before with
  | nil => rfl
  | cons c after ih =>
    rw [lowerAfter, List.length_append, length_lowerBetween, ih, List.length_cons, List.count_cons]
    by_cases hc : c = 'İ'
    · rw [if_pos hc, if_pos (beq_iff_eq.mpr hc)]
      omega
    · have hbeq : ¬ (c == 'İ') = true := fun h => hc (beq_iff_eq.mp h)
      rw [if_neg hc, if_neg hbeq]
      omega

/-- The small form of a text is longer than the text by its capital I's with a dot. -/
theorem length_lower (t : Text) : (lower t).length = t.length + t.count 'İ' :=
  length_lowerAfter [] t

/-- A text with something in it has a small form with something in it. -/
theorem lower_ne_nil (h : t ≠ []) : lower t ≠ [] := by
  have hpos := List.length_pos_iff.mpr h
  have hlength := length_lower t
  intro hnil
  rw [hnil, List.length_nil] at hlength
  omega

/-- The small form of no beginning of a text ends in the middle of a capital I with a dot. -/
theorem length_lower_take_ne {before : Text} (hdot : 'İ' ∉ before) (after : Text) (size : Nat) :
    (lower ((before ++ 'İ' :: after).take size)).length ≠ before.length + 1 := by
  have hnone : (before.take size).count 'İ' = 0 :=
    List.count_eq_zero.mpr fun hmem => hdot (List.mem_of_mem_take hmem)
  have hshort : (before.take size).length ≤ before.length := List.length_take_le' size before
  rw [length_lower, List.take_append, List.length_append, List.count_append, hnone]
  -- A beginning either ends before the letter and is too short, or takes in the letter and is too long.
  cases hover : size - before.length with
  | zero =>
    rw [List.take_zero, List.length_nil, List.count_nil]
    omega
  | succ more =>
    have hfull : before.take size = before := List.take_of_length_le (by omega)
    rw [hfull, List.take_succ_cons, List.length_cons, List.count_cons_self]
    omega

/-! ## Pieces -/

/-- Without the two letters that are not made small one by one, the small form of a text is made character
by character. -/
theorem lowerAfter_eq_map (hdot : 'İ' ∉ t) (hsigma : 'Σ' ∉ t) (before : Text) :
    lowerAfter before t = t.map smallLetter := by
  induction t generalizing before with
  | nil => rfl
  | cons c after ih =>
    simp only [List.mem_cons, not_or] at hdot hsigma
    have hone : lowerBetween before c after = [smallLetter c] := by
      unfold lowerBetween
      rw [if_neg fun h => hsigma.1 h.symm, if_neg fun h => hdot.1 h.symm]
    rw [lowerAfter, hone, ih hdot.2 hsigma.2, List.map_cons, List.singleton_append]

/-- The small form of a text without the two letters that are not made small one by one. -/
theorem lower_eq_map (hdot : 'İ' ∉ t) (hsigma : 'Σ' ∉ t) : lower t = t.map smallLetter :=
  lowerAfter_eq_map hdot hsigma []

/-- Another spelling of a text, in letters that are made small one by one. It is the text itself unless it
has something in it that is not blank. -/
structure Spells (u t : Text) : Prop where
  dot_notMem : 'İ' ∉ u
  sigma_notMem : 'Σ' ∉ u
  length_eq : u.length = t.length
  same : u = t ∨ isAllBlank u = false

/-- The spelling of a text can go on with the spelling of one more character. -/
theorem Spells.cons {u : Text} {c d : Char} (hdot : d ≠ 'İ') (hsigma : d ≠ 'Σ')
    (hd : d = c ∨ isBlank d = false) (h : Spells u t) : Spells (d :: u) (c :: t) := by
  refine ⟨?_, ?_, ?_, ?_⟩
  · exact List.not_mem_cons_of_ne_of_not_mem (Ne.symm hdot) h.dot_notMem
  · exact List.not_mem_cons_of_ne_of_not_mem (Ne.symm hsigma) h.sigma_notMem
  · rw [List.length_cons, List.length_cons, h.length_eq]
  · simp only [isAllBlank, List.all_cons, Bool.and_eq_false_iff]
    rcases hd with rfl | hblank
    · rcases h.same with rfl | hblank
      · exact Or.inl rfl
      · exact Or.inr (Or.inr hblank)
    · exact Or.inr (Or.inl hblank)

/-- The small form of a spelling is made character by character. -/
theorem Spells.lower_eq {u : Text} (h : Spells u t) : lower u = u.map smallLetter :=
  lower_eq_map h.dot_notMem h.sigma_notMem

/-- Wherever it stands, a character other than the capital I with a dot has the small form of a letter that
is made small on its own: itself, or one of the two small sigmas. -/
theorem exists_letter {c : Char} (hc : c ≠ 'İ') (before after : Text) :
    ∃ d, (d ≠ 'İ' ∧ d ≠ 'Σ') ∧ (d = c ∨ isBlank d = false) ∧
      lowerBetween before c after = [smallLetter d] := by
  unfold lowerBetween
  by_cases hsigma : c = 'Σ'
  · rw [if_pos hsigma]
    split
    · exact ⟨'ς', by decide, Or.inr (by decide), by decide⟩
    · exact ⟨'σ', by decide, Or.inr (by decide), by decide⟩
  · rw [if_neg hsigma, if_neg hc]
    exact ⟨c, ⟨hc, hsigma⟩, Or.inl rfl, rfl⟩

/-- What a text adds to the small form between other texts is the small form of a spelling of it. -/
theorem exists_spelling (hdot : 'İ' ∉ t) (before after : Text) :
    ∃ u, Spells u t ∧
      lowerAfter before (t ++ after) = lower u ++ lowerAfter (t.reverse ++ before) after := by
  induction t generalizing before with
  | nil => exact ⟨[], ⟨List.not_mem_nil, List.not_mem_nil, rfl, Or.inl rfl⟩, rfl⟩
  | cons c rest ih =>
    simp only [List.mem_cons, not_or] at hdot
    obtain ⟨u, hu, hrest⟩ := ih hdot.2 (c :: before)
    obtain ⟨d, ⟨hd, hd'⟩, hsame, hfirst⟩ :=
      exists_letter (fun h => hdot.1 h.symm) before (rest ++ after)
    have hcons : Spells (d :: u) (c :: rest) := hu.cons hd hd' hsame
    refine ⟨d :: u, hcons, ?_⟩
    rw [List.cons_append, lowerAfter, hfirst, hrest, hcons.lower_eq, hu.lower_eq, List.reverse_cons,
      List.append_assoc, List.singleton_append]
    rfl

/-- A piece of the small form of a text without the capital I with a dot is the small form of a spelling of
that piece of the text. -/
theorem exists_spelling_of_piece (hdot : 'İ' ∉ t) {column : Nat} (hcolumn : column ≤ t.length)
    (size : Nat) :
    ∃ u, Spells u ((t.drop column).take size) ∧ ((lower t).drop column).take size = lower u := by
  have hsplit : t = t.take column ++ ((t.drop column).take size ++ (t.drop column).drop size) := by
    rw [List.take_append_drop, List.take_append_drop]
  have hbefore : 'İ' ∉ t.take column := fun h => hdot (List.mem_of_mem_take h)
  have hpiece : 'İ' ∉ (t.drop column).take size :=
    fun h => hdot (List.mem_of_mem_drop (List.mem_of_mem_take h))
  obtain ⟨v, hv, hfirst⟩ :=
    exists_spelling hbefore [] ((t.drop column).take size ++ (t.drop column).drop size)
  obtain ⟨u, hu, hsecond⟩ :=
    exists_spelling hpiece ((t.take column).reverse ++ []) ((t.drop column).drop size)
  have hlower : lower t = lower v ++ (lower u ++
      lowerAfter (((t.drop column).take size).reverse ++ ((t.take column).reverse ++ []))
        ((t.drop column).drop size)) := by
    rw [← hsecond, ← hfirst, ← hsplit]
    rfl
  have hvlength : (lower v).length = column := by
    rw [hv.lower_eq, List.length_map, hv.length_eq, List.length_take_of_le hcolumn]
  have hulength : (lower u).length = min size (t.drop column).length := by
    rw [hu.lower_eq, List.length_map, hu.length_eq, List.length_take]
  refine ⟨u, hu, ?_⟩
  rw [hlower, List.drop_left' hvlength]
  by_cases hsize : size ≤ (t.drop column).length
  · exact List.take_left' (by rw [hulength, Nat.min_eq_left hsize])
  · have hend : (t.drop column).drop size = [] := List.drop_of_length_le (by omega)
    rw [hend, lowerAfter, List.append_nil]
    exact List.take_of_length_le (by omega)

/-- That the pieces of a text have, on their own, the small form that they have in the text, wherever that is
found first. -/
def LowersInPieces (t : Text) : Prop :=
  ∀ column size, FirstAt (((lower t).drop column).take size) (lower t) column →
    lower ((t.drop column).take size) = ((lower t).drop column).take size

/-- Without the two letters that are not made small one by one, every text is made small in pieces. -/
theorem lowersInPieces (hdot : 'İ' ∉ t) (hsigma : 'Σ' ∉ t) : LowersInPieces t := by
  intro column size _
  have hsub : ∀ c ∈ (t.drop column).take size, c ∈ t :=
    fun c hc => List.mem_of_mem_drop (List.mem_of_mem_take hc)
  rw [lower_eq_map hdot hsigma, lower_eq_map (fun h => hdot (hsub _ h)) (fun h => hsigma (hsub _ h)),
    List.map_take, List.map_drop]

end Wording.Text
