import Mathlib.Data.List.Nodup
import Wording.Text.Basic

/-!
Lists without what occurred before. Keeping first occurrences keeps the items, each once, and the order of their first
places; and what is added at the end of a list is kept exactly when it is new.
-/

set_option autoImplicit false

namespace Wording.Text

/-- Behind a list, first occurrences are kept of what does not occur in it. -/
theorem firstSeen_append {α : Type} [BEq α] (given more : List α) :
    firstSeen (given ++ more) = firstSeen given ++ (firstSeen more).filter fun a => !given.contains a := by
  induction given with
  | nil => exact (List.filter_true _).symm
  | cons a rest ih =>
    have hnew : ∀ b, (b != a && !rest.contains b) = !(a :: rest).contains b := fun b => by
      rw [List.contains_cons, Bool.not_or]
      rfl
    rw [List.cons_append, firstSeen, firstSeen, ih, List.filter_append, List.filter_filter, List.cons_append]
    simp only [hnew]

variable {α : Type} [BEq α] [LawfulBEq α] {given items : List α} {a : α}

theorem mem_firstSeen_iff {x : α} {xs : List α} : x ∈ firstSeen xs ↔ x ∈ xs := by
  induction xs with
  | nil => exact Iff.rfl
  | cons y ys ih =>
    rw [firstSeen, List.mem_cons, List.mem_cons, List.mem_filter, ih]
    by_cases hx : x = y
    · simp only [hx, true_or]
    · simp only [hx, false_or, bne_iff_ne, ne_eq, not_false_eq_true, and_true]

/-- That items are those of a given list, each once, in the order of their first places there. -/
structure IsFirstSeen (given items : List α) : Prop where
  mem_iff : ∀ a, a ∈ items ↔ a ∈ given
  nodup : items.Nodup
  ordered : items.Pairwise fun a b => given.idxOf a < given.idxOf b

/-- Keeping first occurrences keeps the items, each once, in the order of their first places. -/
theorem isFirstSeen_firstSeen (given : List α) : IsFirstSeen given (firstSeen given) := by
  induction given with
  | nil => exact ⟨fun _ => Iff.rfl, .nil, .nil⟩
  | cons a rest ih =>
    have hne : ∀ b ∈ (firstSeen rest).filter (· != a), b ≠ a := fun b hb => bne_iff_ne.mp (List.mem_filter.mp hb).2
    have hidx : ∀ b, b ≠ a → (a :: rest).idxOf b = rest.idxOf b + 1 := fun b hb =>
      List.idxOf_cons_ne rest (Ne.symm hb)
    refine ⟨fun _ => mem_firstSeen_iff, ?_, ?_⟩
    · exact List.nodup_cons.mpr ⟨fun hmem => hne a hmem rfl, ih.nodup.filter _⟩
    · refine List.pairwise_cons.mpr ⟨fun b hb => ?_, (ih.ordered.filter _).imp_of_mem fun {b c} hb hc hlt => ?_⟩
      · rw [List.idxOf_cons_self, hidx b (hne b hb)]
        exact Nat.succ_pos _
      · rw [hidx b (hne b hb), hidx c (hne c hc)]
        exact Nat.succ_lt_succ hlt

/-- Where nothing occurs twice, keeping first occurrences changes nothing. -/
theorem firstSeen_of_nodup (h : items.Nodup) : firstSeen items = items := by
  induction items with
  | nil => rfl
  | cons a rest ih =>
    obtain ⟨hnew, hrest⟩ := List.nodup_cons.mp h
    have hothers : rest.filter (· != a) = rest :=
      List.filter_eq_self.mpr fun b hb => bne_iff_ne.mpr fun heq => hnew (heq ▸ hb)
    rw [firstSeen, ih hrest, hothers]

/-- What is sorted out may be sorted out before or behind keeping first occurrences. -/
theorem filter_firstSeen (keep : α → Bool) (items : List α) :
    (firstSeen items).filter keep = firstSeen (items.filter keep) := by
  induction items with
  | nil => rfl
  | cons a rest ih =>
    rw [firstSeen, List.filter_cons, List.filter_cons, List.filter_comm, ih]
    split
    · rw [firstSeen]
    next hdrop =>
      refine List.filter_eq_self.mpr fun b hb => bne_iff_ne.mpr ?_
      rintro rfl
      exact hdrop (List.mem_filter.mp (mem_firstSeen_iff.mp hb)).2

/-- Places at the end of a list change nothing in the order of the places before. -/
theorem IsFirstSeen.ordered_append (h : IsFirstSeen given items) (more : List α) :
    items.Pairwise fun a b => (given ++ more).idxOf a < (given ++ more).idxOf b := by
  refine h.ordered.imp_of_mem fun {b c} hb hc hlt => ?_
  rwa [List.idxOf_append_of_mem ((h.mem_iff b).mp hb), List.idxOf_append_of_mem ((h.mem_iff c).mp hc)]

theorem IsFirstSeen.append_of_mem (h : IsFirstSeen given items) (ha : a ∈ given) :
    IsFirstSeen (given ++ [a]) items := by
  refine ⟨fun b => ?_, h.nodup, h.ordered_append [a]⟩
  rw [h.mem_iff, List.mem_append, List.mem_singleton]
  exact ⟨.inl, fun hb => hb.elim id fun hb => hb ▸ ha⟩

theorem IsFirstSeen.append_of_notMem (h : IsFirstSeen given items) (ha : a ∉ given) :
    IsFirstSeen (given ++ [a]) (items ++ [a]) := by
  have hnew : a ∉ items := fun hmem => ha ((h.mem_iff a).mp hmem)
  refine ⟨fun b => ?_, ?_, ?_⟩
  · rw [List.mem_append, List.mem_append, h.mem_iff]
  · exact h.nodup.append (List.nodup_singleton a) (List.disjoint_singleton.mpr hnew)
  · refine List.pairwise_append.mpr ⟨h.ordered_append [a], List.pairwise_singleton _ _, fun b hb c hc => ?_⟩
    have hbefore := (h.mem_iff b).mp hb
    rw [List.mem_singleton.mp hc, List.idxOf_append_of_mem hbefore, List.idxOf_append_of_notMem ha,
      List.idxOf_cons_self]
    exact List.idxOf_lt_length_iff.mpr hbefore

end Wording.Text
