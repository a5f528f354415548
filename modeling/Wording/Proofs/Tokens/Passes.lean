import Wording.Tokens.Comment
import Wording.Proofs.Tokens.Pattern

/-! # Patterns that are replaced one after the other

Each pattern leaves a text lighter or as it is, so that one pattern cannot undo what another has done: a run of them
leaves a text as it is only if none of them is found in it (`replaceAll_eq_self_iff`). The weight of a text counts its
characters and its colons once more, because what is put in for an annotation can be as long as the annotation, but has
no colon. `Lessens` is that each hit weighs more than what is left for it.
-/

set_option autoImplicit false

namespace Wording.Tokens.Pattern

variable {p : Pattern} {t : Text}

/-! ## One pattern -/

/-- What a text weighs: each character once, and each colon twice. -/
def weight (t : Text) : Nat := t.length + t.count ':'

theorem weight_append (t u : Text) : weight (t ++ u) = weight t + weight u := by
  simp only [weight, List.length_append, List.count_append]
  omega

theorem weight_pos (h : t ≠ []) : 0 < weight t := Nat.add_pos_left (List.length_pos_iff.mpr h) _

/-- A pattern whose piece and the text behind it weigh less than the text at its place. -/
structure Lessens (p : Pattern) : Prop extends Steady p where
  lighter : ∀ t hit, p none t = some hit → weight hit.piece + weight hit.rest < weight t

/-- A pattern that leaves nothing of what it takes leaves a lighter text. -/
theorem Steady.lessens (hp : p.Steady) (hleaves : ∀ t hit, p none t = some hit → hit.piece = []) : p.Lessens where
  toSteady := hp
  lighter := by
    intro t hit hhit
    obtain ⟨taken, htaken, ht⟩ := hp.takes t hit hhit
    have hpos := weight_pos htaken
    rw [hleaves t hit hhit, ht, weight_append]
    change 0 + weight hit.rest < weight taken + weight hit.rest
    omega

/-- A pattern that takes at least one character is found nowhere in a text without any. -/
theorem Steady.not_foundIn_nil (hp : p.Steady) : ¬ p.FoundIn [] := by
  rintro ⟨place, hplace, hne⟩
  obtain rfl := List.suffix_nil.mp hplace
  obtain ⟨hit, hhit⟩ := Option.ne_none_iff_exists'.mp hne
  obtain ⟨taken, htaken, hnil⟩ := hp.takes [] hit hhit
  exact htaken (List.append_eq_nil_iff.mp hnil.symm).1

/-- Replacing a pattern that is found makes a text lighter, and replacing one that is not leaves it as it is. -/
theorem Lessens.lighter_or_unchanged (hp : p.Lessens) (t : Text) :
    (p.FoundIn t ∧ weight (p.replace t) < weight t) ∨ (¬ p.FoundIn t ∧ p.replace t = t) := by
  induction t using hp.reading_induction with
  | nil => exact .inr ⟨hp.not_foundIn_nil, rfl⟩
  | miss c cs hmiss ih =>
    rw [foundIn_cons_iff, hp.replace_of_miss hmiss]
    have hone : ∀ u : Text, weight (c :: u) = weight [c] + weight u := weight_append [c]
    rcases ih with ⟨hfound, hlight⟩ | ⟨hnot, hsame⟩
    · refine .inl ⟨.inr hfound, ?_⟩
      rw [hone, hone cs]
      omega
    · refine .inr ⟨?_, by rw [hsame]⟩
      rintro (hhere | hlater)
      · exact hhere hmiss
      · exact hnot hlater
  | hit t hit hhit ih =>
    have hlight := hp.lighter t hit hhit
    have hle : weight (p.replace hit.rest) ≤ weight hit.rest := by
      rcases ih with ⟨-, hlt⟩ | ⟨-, hsame⟩
      · exact Nat.le_of_lt hlt
      · exact Nat.le_of_eq (congrArg weight hsame)
    refine .inl ⟨⟨t, List.suffix_rfl, by simp [hhit]⟩, ?_⟩
    rw [hp.replace_of_hit hhit, weight_append]
    omega

/-- Replacing makes no text heavier. -/
theorem Lessens.weight_replace_le (hp : p.Lessens) (t : Text) : weight (p.replace t) ≤ weight t := by
  rcases hp.lighter_or_unchanged t with ⟨-, hlt⟩ | ⟨-, hsame⟩
  · exact Nat.le_of_lt hlt
  · exact Nat.le_of_eq (congrArg weight hsame)

/-- Replacing a pattern leaves exactly those texts as they are in which it is not found. -/
theorem Lessens.replace_eq_self_iff (hp : p.Lessens) : p.replace t = t ↔ ¬ p.FoundIn t := by
  rcases hp.lighter_or_unchanged t with ⟨hfound, hlt⟩ | ⟨hnot, hsame⟩
  · refine iff_of_false (fun hsame => ?_) (not_not_intro hfound)
    rw [hsame] at hlt
    exact Nat.lt_irrefl _ hlt
  · exact iff_of_true hsame hnot

/-! ## One pattern after the other -/

/-- Replaces some patterns, one after the other. -/
def replaceAll (patterns : List Pattern) (t : Text) : Text := patterns.foldl (fun u p => p.replace u) t

variable {patterns : List Pattern}

theorem weight_replaceAll_le (hpatterns : ∀ p ∈ patterns, p.Lessens) (t : Text) :
    weight (replaceAll patterns t) ≤ weight t := by
  induction patterns generalizing t with
  | nil => exact Nat.le_refl _
  | cons p ps ih =>
    obtain ⟨hp, hps⟩ := List.forall_mem_cons.mp hpatterns
    exact Nat.le_trans (ih hps (p.replace t)) (hp.weight_replace_le t)

/-- Replacing some patterns leaves exactly those texts as they are in which none of them is found. -/
theorem replaceAll_eq_self_iff (hpatterns : ∀ p ∈ patterns, p.Lessens) :
    replaceAll patterns t = t ↔ ∀ p ∈ patterns, ¬ p.FoundIn t := by
  induction patterns with
  | nil => exact iff_of_true rfl fun p hp => (List.not_mem_nil hp).elim
  | cons p ps ih =>
    obtain ⟨hp, hps⟩ := List.forall_mem_cons.mp hpatterns
    have hstep : replaceAll (p :: ps) t = replaceAll ps (p.replace t) := rfl
    rw [List.forall_mem_cons, ← ih hps, ← hp.replace_eq_self_iff, hstep]
    constructor
    · intro hsame
      -- What the first pattern takes away cannot come back.
      have hle := weight_replaceAll_le hps (p.replace t)
      rw [hsame] at hle
      have hfirst : p.replace t = t := by
        rcases hp.lighter_or_unchanged t with ⟨-, hlt⟩ | ⟨-, hfirst⟩
        · exact absurd hle (Nat.not_le_of_lt hlt)
        · exact hfirst
      rw [hfirst] at hsame
      exact ⟨hfirst, hsame⟩
    · rintro ⟨hfirst, hsame⟩
      rw [hfirst, hsame]

/-! ## Erasers -/

theorem foundIn_erasing_iff : p.erasing.FoundIn t ↔ p.FoundIn t := by
  simp only [FoundIn, erasing, ne_eq, Option.map_eq_none_iff]

/-- Erasing comments between two marks makes a text lighter. -/
theorem Erases.lessens (hp : p.Erases) : p.Lessens := hp.toSteady.lessens hp.leaves

end Wording.Tokens.Pattern
