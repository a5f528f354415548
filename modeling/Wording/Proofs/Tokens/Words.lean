import Wording.Tokens.Basic
import Wording.Proofs.Text.Blank
import Wording.Proofs.Text.Lines
import Wording.Proofs.Text.Lowercase

/-! # The words of a text that have something in them

White space splits the words of a text into those before and those behind it (`fullWords_append_cons`), and all else
follows from that: the words of a text are those of its lines, the pieces of the words are the pieces of the text
without white space, and the words of the small form are the small forms of the words. The induction is the one on the
white space of a text, so that the way in which words are split is opened once.
-/

set_option autoImplicit false

namespace Wording.Tokens

open Text (isBlank hasBlank)

/-- The words of a text that have something in them. -/
def fullWords (t : Text) : List Text := (splitWords t).filter (· ≠ [])

/-- The first word is what stands before the first white space. Behind it, the words with something in them are
the parts between white space with something in them, and so are all words if the text follows white
space. -/
theorem exists_wordsFrom (t : Text) :
    ∃ first words parts, wordsFrom false t = first :: words ∧ t.splitOnP isBlank = first :: parts ∧
      words.filter (· ≠ []) = parts.filter (· ≠ []) ∧
      (wordsFrom true t).filter (· ≠ []) = (first :: parts).filter (· ≠ []) := by
  induction t with
  | nil => exact ⟨[], [], [], rfl, rfl, rfl, rfl⟩
  | cons c rest ih =>
    obtain ⟨first, words, parts, hwords, hparts, hlater, hgap⟩ := ih
    rw [List.splitOnP_cons_eq_if_modifyHead, hparts]
    by_cases hc : isBlank c = true
    · have hsplit : wordsFrom false (c :: rest) = [] :: wordsFrom true rest := by
        rw [wordsFrom, if_pos hc, if_neg Bool.false_ne_true]
      have hskip : wordsFrom true (c :: rest) = wordsFrom true rest := by
        rw [wordsFrom, if_pos hc, if_pos rfl]
      refine ⟨[], wordsFrom true rest, first :: parts, hsplit, if_pos hc, hgap, ?_⟩
      rw [hskip, hgap]
      rfl
    · have hword : ∀ inGap, wordsFrom inGap (c :: rest) = (c :: first) :: words := by
        intro inGap
        rw [wordsFrom, if_neg hc, hwords]
      refine ⟨c :: first, words, parts, hword false, if_neg hc, hlater, ?_⟩
      rw [hword, List.filter_cons, List.filter_cons, hlater]

/-- The words with something in them are the parts between white space with something in them. -/
theorem fullWords_eq (t : Text) : fullWords t = (t.splitOnP isBlank).filter (· ≠ []) := by
  obtain ⟨first, words, parts, hwords, hparts, hlater, -⟩ := exists_wordsFrom t
  rw [fullWords, splitWords, hwords, hparts, List.filter_cons, List.filter_cons, hlater]

theorem fullWords_append_cons {c : Char} (h : isBlank c = true) (before after : Text) :
    fullWords (before ++ c :: after) = fullWords before ++ fullWords after := by
  rw [fullWords_eq, List.splitOnP_append_cons before after h, List.filter_append, ← fullWords_eq,
    ← fullWords_eq]

/-- A text without white space is one word, or none if there is nothing in it. -/
theorem fullWords_of_not_hasBlank {t : Text} (h : hasBlank t = false) :
    fullWords t = if t = [] then [] else [t] := by
  rw [fullWords_eq, List.splitOnP_eq_singleton, List.filter_cons, List.filter_nil]
  · simp only [ne_eq, decide_not, Bool.not_eq_true', decide_eq_false_iff_not, ite_not]
  · exact fun c hc => Bool.eq_false_iff.mpr (List.any_eq_false.mp h c hc)

theorem mem_fullWords_of_not_hasBlank {t word : Text} (h : hasBlank t = false) :
    word ∈ fullWords t ↔ word = t ∧ t ≠ [] := by
  rw [fullWords_of_not_hasBlank h]
  split
  next hnil => simp only [hnil, List.not_mem_nil, ne_eq, not_true_eq_false, and_false]
  next hne => simp only [List.mem_singleton, ne_eq, hne, not_false_eq_true, and_true]

theorem ne_nil_and_not_hasBlank_of_mem_fullWords {t word : Text} (h : word ∈ fullWords t) :
    word ≠ [] ∧ hasBlank word = false := by
  induction t using Text.blank_induction with
  | piece t ht =>
    obtain ⟨rfl, hne⟩ := (mem_fullWords_of_not_hasBlank ht).mp h
    exact ⟨hne, ht⟩
  | gap before c after hc ihbefore ihafter =>
    rw [fullWords_append_cons hc] at h
    rcases List.mem_append.mp h with h | h
    · exact ihbefore h
    · exact ihafter h

/-- The words of parts joined by white space are the words of the parts. -/
theorem fullWords_join {c : Char} (h : isBlank c = true) (parts : List Text) :
    fullWords (Text.join [c] parts) = parts.flatMap fullWords := by
  induction parts with
  | nil => rfl
  | cons part parts ih =>
    cases parts with
    | nil => rw [Text.join, List.flatMap_singleton]
    | cons next rest =>
      rw [Text.join, List.append_assoc, List.singleton_append, fullWords_append_cons h, ih]
      exact List.flatMap_cons.symm

/-- The words of a text are those of its lines. -/
theorem fullWords_eq_flatMap_lines (t : Text) : fullWords t = (Text.lines t).flatMap fullWords := by
  have hfeed : isBlank '\n' = true := by decide
  rw [← fullWords_join hfeed, Text.join_lines]

/-- A text without white space goes no way into a text that begins with white space. -/
theorem eq_nil_of_prefix_cons {piece : Text} {c : Char} (hc : isBlank c = true)
    (hpiece : hasBlank piece = false) {after : Text} (h : piece <+: c :: after) : piece = [] := by
  cases piece with
  | nil => rfl
  | cons d rest =>
    obtain ⟨rfl, -⟩ := List.cons_prefix_cons.mp h
    rw [hasBlank, List.any_cons, hc, Bool.true_or] at hpiece
    cases hpiece

/-- A piece without white space stands on one side of white space. -/
theorem infix_append_cons_iff {piece : Text} {c : Char} (hc : isBlank c = true)
    (hpiece : hasBlank piece = false) (before after : Text) :
    piece <:+: before ++ c :: after ↔ piece <:+: before ∨ piece <:+: after := by
  constructor
  · intro h
    rcases List.infix_append_iff.mp h with h | h | ⟨first, last, rfl, hfirst, hlast⟩
    · exact Or.inl h
    · rcases List.infix_cons_iff.mp h with h | h
      · rw [eq_nil_of_prefix_cons hc hpiece h]
        exact Or.inl List.nil_infix
      · exact Or.inr h
    · rw [Text.hasBlank_append, Bool.or_eq_false_iff] at hpiece
      rw [eq_nil_of_prefix_cons hc hpiece.2 hlast, List.append_nil]
      exact Or.inl hfirst.isInfix
  · rintro (h | h)
    · exact h.trans (List.prefix_append _ _).isInfix
    · exact h.trans ((List.suffix_cons c after).trans (List.suffix_append _ _)).isInfix

/-- A piece with something in it stands in a word of a text exactly when it stands in the text and has no white
space. -/
theorem exists_fullWord_iff {t piece : Text} (hne : piece ≠ []) :
    (∃ word ∈ fullWords t, piece <:+: word) ↔ piece <:+: t ∧ hasBlank piece = false := by
  induction t using Text.blank_induction with
  | piece t ht =>
    simp only [mem_fullWords_of_not_hasBlank ht]
    constructor
    · rintro ⟨word, ⟨rfl, -⟩, h⟩
      exact ⟨h, Text.hasBlank_of_isInfix h ht⟩
    · rintro ⟨h, -⟩
      refine ⟨t, ⟨rfl, ?_⟩, h⟩
      rintro rfl
      exact hne (List.infix_nil.mp h)
  | gap before c after hc ihbefore ihafter =>
    simp only [fullWords_append_cons hc, List.mem_append, or_and_right, exists_or, ihbefore, ihafter]
    rw [← or_and_right]
    apply and_congr_left
    intro hpiece
    exact (infix_append_cons_iff hc hpiece before after).symm

/-- The words of the small form of a text are the small forms of its words. -/
theorem fullWords_lower (t : Text) : fullWords (Text.lower t) = (fullWords t).map Text.lower := by
  induction t using Text.blank_induction with
  | piece t ht =>
    have hlower : hasBlank (Text.lower t) = false := by rwa [Text.hasBlank_lower]
    rw [fullWords_of_not_hasBlank ht, fullWords_of_not_hasBlank hlower]
    by_cases hnil : t = []
    · subst hnil
      rfl
    · rw [if_neg hnil, if_neg (Text.lower_ne_nil hnil), List.map_singleton]
  | gap before c after hc ihbefore ihafter =>
    rw [Text.lower_append_cons hc, fullWords_append_cons hc, fullWords_append_cons hc, ihbefore,
      ihafter, List.map_append]

end Wording.Tokens
