import Wording.Text.Basic

/-! # Searches for a piece of a text

A search answers a place exactly when it is the first one, a cut answers what stands before the first place and behind
the piece there, and a piece is found in exactly the texts that hold it. `FirstAt` says what the first place is, apart
from any search, and all searches are brought to it by induction on the text. What follows behind a piece changes
nothing on its first place (`FirstAt.of_same_beginning`), so a text may go on behind what was found.
-/

set_option autoImplicit false

namespace Wording.Text

/-- A beginning can be dropped exactly when the text is that beginning and the rest. -/
theorem dropBeginning?_eq_some_iff {piece t rest : Text} :
    dropBeginning? piece t = some rest ↔ t = piece ++ rest := by
  induction piece generalizing t with
  | nil => simp only [dropBeginning?, Option.some.injEq, List.nil_append]
  | cons b bs ih =>
    cases t with
    | nil => simp only [dropBeginning?, reduceCtorEq, List.cons_append]
    | cons c cs =>
      by_cases h : b = c
      · subst h
        simp only [dropBeginning?, if_true, ih, List.cons_append, List.cons.injEq, true_and]
      · have hc : ¬ c = b := fun e => h e.symm
        simp only [dropBeginning?, if_neg h, reduceCtorEq, List.cons_append, List.cons.injEq, hc,
          false_and]

/-- Whether a text begins with a piece is the question whether the piece is a prefix of it. -/
theorem beginsWith_iff {piece t : Text} : beginsWith piece t = true ↔ piece <+: t := by
  unfold beginsWith
  rw [Option.isSome_iff_exists]
  constructor
  · rintro ⟨rest, h⟩
    exact ⟨rest, (dropBeginning?_eq_some_iff.mp h).symm⟩
  · rintro ⟨rest, h⟩
    exact ⟨rest, dropBeginning?_eq_some_iff.mpr h.symm⟩

/-- A place is the first one at which a text goes on with a piece. -/
structure FirstAt (piece t : Text) (place : Nat) : Prop where
  le : place ≤ t.length
  starts : piece <+: t.drop place
  noEarlier : ∀ earlier < place, ¬ piece <+: t.drop earlier

/-- The first place is the beginning of a text exactly when the text begins with the piece. -/
theorem firstAt_zero_iff {piece t : Text} : FirstAt piece t 0 ↔ piece <+: t :=
  ⟨fun h => h.starts, fun h => ⟨Nat.zero_le _, h, fun _ hm => absurd hm (Nat.not_lt_zero _)⟩⟩

theorem firstAt_cons_iff {piece cs : Text} {c : Char} {place : Nat} :
    FirstAt piece (c :: cs) (place + 1) ↔ ¬ piece <+: c :: cs ∧ FirstAt piece cs place := by
  constructor
  · intro h
    refine ⟨h.noEarlier 0 (Nat.succ_pos _), Nat.le_of_succ_le_succ h.le, h.starts, fun earlier hm => ?_⟩
    exact h.noEarlier (earlier + 1) (Nat.succ_lt_succ hm)
  · rintro ⟨hfirst, h⟩
    refine ⟨Nat.succ_le_succ h.le, h.starts, fun earlier hm => ?_⟩
    cases earlier with
    | zero => exact hfirst
    | succ earlier => exact h.noEarlier earlier (Nat.lt_of_succ_lt_succ hm)

theorem FirstAt.unique {piece t : Text} {a b : Nat} (ha : FirstAt piece t a)
    (hb : FirstAt piece t b) : a = b := by
  rcases Nat.lt_trichotomy a b with h | h | h
  · exact absurd ha.starts (hb.noEarlier a h)
  · exact h
  · exact absurd hb.starts (ha.noEarlier b h)

/-- A search answers a place exactly when it is the first one. -/
theorem indexOf?_eq_some_iff {piece t : Text} {place : Nat} :
    indexOf? piece t = some place ↔ FirstAt piece t place := by
  induction t generalizing place with
  | nil =>
    have hlen : ∀ n, FirstAt piece [] n → n = 0 := fun n h => Nat.le_zero.mp h.le
    by_cases hp : piece = []
    · subst hp
      simp only [indexOf?, if_true, Option.some.injEq]
      exact ⟨fun h => h ▸ firstAt_zero_iff.mpr (List.prefix_refl _), fun h => (hlen _ h).symm⟩
    · simp only [indexOf?, if_neg hp, reduceCtorEq, false_iff]
      intro h
      exact hp (List.prefix_nil.mp (firstAt_zero_iff.mp (hlen _ h ▸ h)))
  | cons c cs ih =>
    by_cases hb : piece <+: c :: cs
    · simp only [indexOf?, beginsWith_iff.mpr hb, if_true, Option.some.injEq]
      have hzero := firstAt_zero_iff.mpr hb
      exact ⟨fun h => h ▸ hzero, fun h => hzero.unique h⟩
    · have hbool : ¬ beginsWith piece (c :: cs) = true := fun h => hb (beginsWith_iff.mp h)
      simp only [indexOf?, if_neg hbool, Option.map_eq_some_iff]
      constructor
      · rintro ⟨n, hn, rfl⟩
        exact firstAt_cons_iff.mpr ⟨hb, ih.mp hn⟩
      · intro h
        cases place with
        | zero => exact absurd (firstAt_zero_iff.mp h) hb
        | succ n => exact ⟨n, ih.mpr (firstAt_cons_iff.mp h).2, rfl⟩

/-- A piece is found in exactly the texts that hold it. -/
theorem contains_iff {t piece : Text} : contains t piece = true ↔ piece <:+: t := by
  unfold contains
  rw [Option.isSome_iff_exists]
  constructor
  · rintro ⟨place, h⟩
    have hstarts := (indexOf?_eq_some_iff.mp h).starts
    exact hstarts.isInfix.trans (List.drop_suffix place t).isInfix
  · induction t with
    | nil =>
      intro h
      rw [List.infix_nil.mp h]
      exact ⟨0, rfl⟩
    | cons c cs ih =>
      intro h
      by_cases hb : piece <+: c :: cs
      · exact ⟨0, indexOf?_eq_some_iff.mpr (firstAt_zero_iff.mpr hb)⟩
      · obtain ⟨n, hn⟩ := ih ((List.infix_cons_iff.mp h).resolve_left hb)
        exact ⟨n + 1, indexOf?_eq_some_iff.mpr
          (firstAt_cons_iff.mpr ⟨hb, indexOf?_eq_some_iff.mp hn⟩)⟩

theorem exists_firstAt_iff {t piece : Text} : (∃ place, FirstAt piece t place) ↔ piece <:+: t := by
  rw [← contains_iff, contains, Option.isSome_iff_exists]
  simp only [indexOf?_eq_some_iff]

/-- A cut answers the text before the first place of the piece and the text behind the piece. -/
theorem cutAt?_eq_some_iff {piece t before rest : Text} :
    cutAt? piece t = some (before, rest) ↔
      t = before ++ piece ++ rest ∧ FirstAt piece t before.length := by
  induction t generalizing before with
  | nil =>
    by_cases hp : piece = []
    · subst hp
      simp only [cutAt?, if_true, Option.some.injEq, Prod.mk.injEq, List.append_nil]
      constructor
      · rintro ⟨rfl, rfl⟩
        exact ⟨rfl, firstAt_zero_iff.mpr (List.prefix_refl _)⟩
      · rintro ⟨h, -⟩
        obtain ⟨rfl, rfl⟩ := List.append_eq_nil_iff.mp h.symm
        exact ⟨rfl, rfl⟩
    · simp only [cutAt?, if_neg hp, reduceCtorEq, false_iff, not_and]
      intro h
      have hmid := (List.append_eq_nil_iff.mp (List.append_eq_nil_iff.mp h.symm).1).2
      exact absurd hmid hp
  | cons c cs ih =>
    cases hd : dropBeginning? piece (c :: cs) with
    | some behind =>
      have ht := dropBeginning?_eq_some_iff.mp hd
      have hzero : FirstAt piece (c :: cs) 0 := firstAt_zero_iff.mpr ⟨behind, ht.symm⟩
      simp only [cutAt?, hd, Option.some.injEq, Prod.mk.injEq]
      constructor
      · rintro ⟨rfl, rfl⟩
        exact ⟨ht, hzero⟩
      · rintro ⟨h, hfirst⟩
        have hnil : before = [] := List.length_eq_zero_iff.mp (hfirst.unique hzero)
        subst hnil
        exact ⟨rfl, List.append_cancel_left (ht.symm.trans h)⟩
    | none =>
      have hb : ¬ piece <+: c :: cs := by
        rintro ⟨behind, h⟩
        rw [dropBeginning?_eq_some_iff.mpr h.symm] at hd
        cases hd
      simp only [cutAt?, hd, Option.map_eq_some_iff]
      constructor
      · rintro ⟨⟨b, r⟩, hcut, heq⟩
        obtain ⟨rfl, rfl⟩ := Prod.mk.injEq .. ▸ heq
        obtain ⟨hcs, hfirst⟩ := ih.mp hcut
        exact ⟨by rw [hcs]; rfl, firstAt_cons_iff.mpr ⟨hb, hcs ▸ hfirst⟩⟩
      · rintro ⟨h, hfirst⟩
        cases before with
        | nil => exact absurd (firstAt_zero_iff.mp hfirst) hb
        | cons x xs =>
          obtain ⟨rfl, hcs⟩ := List.cons.inj h
          exact ⟨(xs, rest), ih.mpr ⟨hcs, (firstAt_cons_iff.mp hfirst).2⟩, rfl⟩

theorem exists_cutAt?_iff {piece t : Text} : (∃ parts, cutAt? piece t = some parts) ↔ piece <:+: t := by
  constructor
  · rintro ⟨⟨before, rest⟩, h⟩
    rw [(cutAt?_eq_some_iff.mp h).1]
    exact List.infix_append before piece rest
  · intro h
    obtain ⟨place, hplace⟩ := exists_firstAt_iff.mpr h
    obtain ⟨rest, hrest⟩ := hplace.starts
    refine ⟨(t.take place, rest), cutAt?_eq_some_iff.mpr ⟨?_, ?_⟩⟩
    · rw [List.append_assoc, hrest, List.take_append_drop]
    · rwa [List.length_take_of_le hplace.le]

/-- A first place stays first when another text follows behind the piece. -/
theorem FirstAt.of_same_beginning {piece before rest other : Text}
    (h : FirstAt piece (before ++ piece ++ rest) before.length) :
    FirstAt piece (before ++ piece ++ other) before.length := by
  have starts : ∀ m ≤ before.length, ∀ r : Text,
      piece <+: (before ++ piece ++ r).drop m ↔ piece <+: (before ++ piece).drop m := by
    intro m hm r
    have hmid : m ≤ (before ++ piece).length := by simp only [List.length_append]; omega
    rw [List.drop_append_of_le_length hmid]
    refine ⟨fun hp => ?_, List.prefix_append_of_prefix⟩
    refine List.prefix_of_prefix_length_le hp (List.prefix_append _ _) ?_
    simp only [List.length_drop, List.length_append]
    omega
  refine ⟨?_, ?_, fun earlier hm hp => ?_⟩
  · simp only [List.length_append]
    omega
  · rw [starts _ (Nat.le_refl _)]
    exact (starts _ (Nat.le_refl _) rest).mp h.starts
  · have hle := Nat.le_of_lt hm
    exact h.noEarlier earlier hm ((starts earlier hle rest).mpr ((starts earlier hle other).mp hp))

theorem cutAt?_of_same_beginning {piece t before rest : Text}
    (h : cutAt? piece t = some (before, rest)) (other : Text) :
    cutAt? piece (before ++ piece ++ other) = some (before, other) := by
  obtain ⟨ht, hfirst⟩ := cutAt?_eq_some_iff.mp h
  exact cutAt?_eq_some_iff.mpr ⟨rfl, (ht ▸ hfirst).of_same_beginning⟩

end Wording.Text
