import Mathlib.Order.Lattice

/-! # Stable sorting by a key

A list is the stable sort of a given one if it has the same items, keys never fall along it, and items of one key stand
in the order in which they were given. There is no more than one such list (`IsStableSort.unique`), and merging answers
it whenever items are compared by their keys. The items of a key are told by filtering, so that the order among them and
their number are one equation.
-/

set_option autoImplicit false

namespace Wording

variable {α κ : Type} [LinearOrder κ] {key : α → κ} {given : List α}

/-- That a list is the stable sort of a given one by a key. -/
structure IsStableSort (key : α → κ) (given sorted : List α) : Prop where
  perm : sorted.Perm given
  ordered : sorted.Pairwise fun a b => key a ≤ key b
  stable : ∀ k, (sorted.filter fun a => key a = k) = given.filter fun a => key a = k

theorem isStableSort_self (h : given.Pairwise fun a b => key a ≤ key b) : IsStableSort key given given :=
  ⟨.refl given, h, fun _ => rfl⟩

section Unique

variable {first second : List α} (h : ∀ k, (first.filter fun a => key a = k) = second.filter fun a => key a = k)

include h

theorem mem_iff_of_filter_key_eq (a : α) : a ∈ first ↔ a ∈ second := by
  have hof : ∀ items : List α, a ∈ items ↔ a ∈ items.filter fun b => key b = key a := fun items => by
    simp only [List.mem_filter, decide_true, and_true]
  rw [hof first, hof second, h]

/-- Lists along which keys never fall are the same if they have the same items of each key. -/
theorem eq_of_filter_key_eq (hfirst : first.Pairwise fun a b => key a ≤ key b)
    (hsecond : second.Pairwise fun a b => key a ≤ key b) : first = second := by
  induction first generalizing second with
  | nil =>
    refine (List.eq_nil_iff_forall_not_mem.mpr fun a ha => ?_).symm
    exact List.not_mem_nil ((mem_iff_of_filter_key_eq h a).mpr ha)
  | cons a first ih =>
    have hmem := mem_iff_of_filter_key_eq h
    cases second with
    | nil => exact absurd ((hmem a).mp List.mem_cons_self) List.not_mem_nil
    | cons b second =>
      have hleast := (List.pairwise_cons.mp hfirst).1
      have hleast' := (List.pairwise_cons.mp hsecond).1
      -- Both lists begin with an item of the least key, which has the same first item in both.
      have hab : key a ≤ key b := by
        rcases List.mem_cons.mp ((hmem b).mpr List.mem_cons_self) with rfl | hb
        · exact le_rfl
        · exact hleast b hb
      have hba : key b ≤ key a := by
        rcases List.mem_cons.mp ((hmem a).mp List.mem_cons_self) with rfl | ha
        · exact le_rfl
        · exact hleast' a ha
      have hhead := h (key a)
      rw [List.filter_cons, List.filter_cons, if_pos (decide_eq_true rfl),
        if_pos (decide_eq_true (le_antisymm hba hab))] at hhead
      obtain rfl : a = b := (List.cons.inj hhead).1
      refine congrArg (a :: ·) (ih (fun k => ?_) hfirst.of_cons hsecond.of_cons)
      have hk := h k
      rw [List.filter_cons, List.filter_cons] at hk
      split at hk
      · exact (List.cons.inj hk).2
      · exact hk

end Unique

/-- A list has no more than one stable sort by a key. -/
theorem IsStableSort.unique {first second : List α} (hfirst : IsStableSort key given first)
    (hsecond : IsStableSort key given second) : first = second :=
  eq_of_filter_key_eq (fun k => (hfirst.stable k).trans (hsecond.stable k).symm) hfirst.ordered hsecond.ordered

/-- Merging sorts stably by a key if the given items are compared by it. -/
theorem isStableSort_mergeSort {le : α → α → Bool}
    (hle : ∀ a ∈ given, ∀ b ∈ given, le a b = true ↔ key a ≤ key b) : IsStableSort key given (given.mergeSort le) := by
  have hbykey : given.mergeSort le = given.mergeSort fun a b => key a ≤ key b := by
    have hmap : (given.mergeSort le).map id = (given.map id).mergeSort fun a b => key a ≤ key b :=
      List.map_mergeSort fun a ha b hb => by rw [Bool.eq_iff_iff, hle a ha b hb, decide_eq_true_eq, id, id]
    rwa [List.map_id, List.map_id] at hmap
  have htrans : ∀ a b c : α, decide (key a ≤ key b) = true → decide (key b ≤ key c) = true →
      decide (key a ≤ key c) = true := by
    simp only [decide_eq_true_eq]
    exact fun a b c => le_trans
  have htotal : ∀ a b : α, (decide (key a ≤ key b) || decide (key b ≤ key a)) = true := by
    simp only [Bool.or_eq_true, decide_eq_true_eq]
    exact fun a b => le_total (key a) (key b)
  rw [hbykey]
  refine ⟨List.mergeSort_perm given _, ?_, fun k => ?_⟩
  · exact (List.pairwise_mergeSort htrans htotal given).imp of_decide_eq_true
  · -- The items of one key are in order as they were given, so that they stay a part of the sorted list.
    have hkept : (given.filter fun a => key a = k).Pairwise fun a b => decide (key a ≤ key b) = true := by
      refine List.pairwise_filter.mpr (List.pairwise_of_forall fun a b => ?_)
      simp only [decide_eq_true_eq]
      exact fun ha hb => (ha.trans hb.symm).le
    have hpart := (List.sublist_mergeSort htrans htotal hkept List.filter_sublist).filter fun a => key a = k
    rw [List.filter_filter] at hpart
    simp only [Bool.and_self] at hpart
    exact (hpart.eq_of_length ((List.mergeSort_perm given _).filter _).length_eq.symm).symm

end Wording
