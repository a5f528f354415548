import Wording.Proofs.Tokens.Passes

/-!
Marks that come about when something is erased between their characters. Erasing leaves a mark at a place of a text
either because it stood there, or because it has joined two of its characters there. The place is told by what is left
before it, so that it can be followed through the passes that come after the erasing: a mark that is left in the end is
one that each of them has kept, and it is known where the erasing has left that one.
-/

set_option autoImplicit false

namespace Wording.Tokens.Pattern

variable {p : Pattern}

/-! ## Erasing -/

/-- The first character that erasing leaves stands behind nothing but what is erased, and the pattern misses there. -/
theorem Erases.exists_of_replace_eq_cons (hp : p.Erases) {t w : Text} {a : Char} (h : p.replace t = a :: w) :
    ∃ inner behind, t = inner ++ a :: behind ∧ p.replace inner = [] ∧ p.Leaves t [] (a :: behind) ∧
      p none (a :: behind) = none ∧ p.replace behind = w := by
  induction t using hp.reading_induction with
  | nil => cases h
  | miss c cs hmiss ih =>
    rw [hp.replace_of_miss hmiss] at h
    obtain ⟨rfl, rfl⟩ := List.cons.inj h
    exact ⟨[], cs, rfl, rfl, .here _, hmiss, rfl⟩
  | hit t hit hhit ih =>
    have hleaves := hp.leaves t hit hhit
    rw [hp.replace_of_hit hhit, hleaves, List.nil_append] at h
    obtain ⟨inner, behind, hrest, hinner, hbehind, hmiss, hw⟩ := ih h
    obtain ⟨taken, -, rfl⟩ := hp.takes t hit hhit
    refine ⟨taken ++ inner, behind, by rw [hrest, List.append_assoc], ?_, ?_, hmiss, hw⟩
    · rw [hp.replace_of_hit (hp.hit_append taken hit hhit inner), List.nil_append, hinner]
    · have hfrom := Leaves.hit hhit hbehind
      rwa [hleaves] at hfrom

/-- Wherever a text is cut that erasing leaves, what is behind the cut is left of a place that reading comes to. -/
theorem Erases.exists_leaves_of_replace_eq (hp : p.Erases) {t x w : Text} (h : p.replace t = x ++ w) :
    ∃ place, p.Leaves t x place ∧ p.replace place = w := by
  induction x generalizing t with
  | nil => exact ⟨t, .here t, h⟩
  | cons c cs ih =>
    obtain ⟨-, behind, -, -, hbehind, hmiss, hw⟩ := hp.exists_of_replace_eq_cons h
    obtain ⟨place, hplace, hrest⟩ := ih hw
    exact ⟨place, hbehind.trans (.miss hmiss hplace), hrest⟩

/-- That two characters of a text stay, the first of them behind what is left before it, with nothing but what is erased
between them, and not nothing. -/
def Joins (p : Pattern) (before : Text) (a b : Char) (t : Text) : Prop :=
  ∃ inner behind, p.Leaves t before (a :: (inner ++ b :: behind)) ∧ p none (a :: (inner ++ b :: behind)) = none ∧
    inner ≠ [] ∧ p.replace inner = [] ∧ p none (b :: behind) = none

/-- That erasing joins two characters side by side in a mark which it leaves behind some text. -/
def JoinsIn (p : Pattern) (mark before t : Text) : Prop :=
  ∃ front a b back, mark = front ++ [a, b] ++ back ∧ p.Joins (before ++ front) a b t

/-- What erasing joins behind a place that reading comes to, it joins in the text. -/
theorem JoinsIn.of_leaves {t place front mark before : Text} (h : p.JoinsIn mark before place)
    (hplace : p.Leaves t front place) : p.JoinsIn mark (front ++ before) t := by
  obtain ⟨first, a, b, back, hmark, inner, behind, hleaves, hjoined⟩ := h
  refine ⟨first, a, b, back, hmark, inner, behind, ?_, hjoined⟩
  rw [List.append_assoc]
  exact hplace.trans hleaves

/-- Characters behind one that stays stand behind it in the text, or erasing joins two of all these. -/
theorem Erases.behind_or_joinsIn (hp : p.Erases) {t before behind u w : Text} {a : Char}
    (hbefore : p.Leaves t before (a :: behind)) (hmiss : p none (a :: behind) = none) (h : p.replace behind = u ++ w) :
    (∃ w', behind = u ++ w' ∧ p.Leaves t (before ++ a :: u) w' ∧ p.replace w' = w) ∨
      p.JoinsIn (a :: u) before t := by
  induction u generalizing a before behind with
  | nil => exact .inl ⟨behind, rfl, hbefore.trans (.miss hmiss (.here behind)), h⟩
  | cons b bs ih =>
    obtain ⟨inner, more, rfl, hinner, hmore, hmiss', hw⟩ := hp.exists_of_replace_eq_cons h
    by_cases hnil : inner = []
    · subst hnil
      have hnext := hbefore.trans (.miss hmiss hmore)
      rcases ih hnext hmiss' hw with ⟨w', rfl, hleaves, hw'⟩ | ⟨front, c, d, back, hmark, hjoins⟩
      · rw [List.append_assoc] at hleaves
        exact .inl ⟨w', rfl, hleaves, hw'⟩
      · refine .inr ⟨a :: front, c, d, back, by rw [hmark]; rfl, ?_⟩
        rwa [List.append_assoc] at hjoins
    · refine .inr ⟨[], a, b, bs, rfl, inner, more, ?_, hmiss, hnil, hinner, hmiss'⟩
      rwa [List.append_nil]

/-- A mark in what erasing leaves stands in the text, where the pattern misses and behind which reading goes on, or
erasing joins two characters in it. -/
theorem Erases.exists_or_joinsIn (hp : p.Erases) {t before mark w : Text} (hne : mark ≠ [])
    (h : p.replace t = before ++ mark ++ w) :
    (∃ w', p.Leaves t before (mark ++ w') ∧ p none (mark ++ w') = none ∧ p.Leaves t (before ++ mark) w' ∧
        p.replace w' = w) ∨
      p.JoinsIn mark before t := by
  obtain ⟨a, as, rfl⟩ := List.exists_cons_of_ne_nil hne
  rw [List.append_assoc] at h
  obtain ⟨place, hplace, hleft⟩ := hp.exists_leaves_of_replace_eq h
  obtain ⟨-, behind, -, -, hbehind, hmiss, hw⟩ := hp.exists_of_replace_eq_cons hleft
  have hbefore := hplace.trans hbehind
  rw [List.append_nil] at hbefore
  rcases hp.behind_or_joinsIn hbefore hmiss hw with ⟨w', rfl, hleaves, hw'⟩ | hjoins
  · exact .inl ⟨w', hbefore, hmiss, hleaves, hw'⟩
  · exact .inr hjoins

/-! ## Passes behind the erasing -/

/-- That a pass leaves a mark as it is: the mark stands behind some text, and behind what the pass makes of that text
once the pass is over. -/
def Keeps (q : Pattern) (mark front before t : Text) : Prop :=
  ∃ behind, t = front ++ mark ++ behind ∧ q.Leaves t before (mark ++ behind) ∧ q.Leaves (mark ++ behind) mark behind

/-- That some passes, one after the other, leave a mark as it is. -/
def KeepThrough (mark : Text) : List Pattern → Text → Text → Text → Prop
  | [], front, before, _ => front = before
  | q :: qs, front, before, t =>
    ∃ between, q.Keeps mark front between t ∧ KeepThrough mark qs between before (q.replace t)

section Keeping

variable {opening closing before body w t : Text}

/-- Marks in what a pass leaves, whose characters the pass leaves alone, are marks that it has kept. -/
theorem Steady.exists_keeps (hq : p.Steady) (hbars : p.Bars (· ∈ opening ++ closing)) (hopening : opening ≠ [])
    (hclosing : closing ≠ []) (h : p.replace t = before ++ opening ++ body ++ closing ++ w) :
    ∃ front inside rest, t = front ++ opening ++ inside ++ closing ++ rest ∧ p.Keeps opening front before t ∧
      p.Keeps closing (front ++ opening ++ inside) (before ++ opening ++ body) t := by
  have hopens : ∀ c ∈ opening, c ∈ opening ++ closing := fun _ => List.mem_append_left _
  have hcloses : ∀ c ∈ closing, c ∈ opening ++ closing := fun _ => List.mem_append_right _
  have hsplit : p.replace t = before ++ opening ++ (body ++ closing ++ w) := by
    rw [h]
    simp only [List.append_assoc]
  obtain ⟨behind, hplace, -, hkept, hleft⟩ := hq.exists_of_replace_eq hbars hopening hopens hsplit
  obtain ⟨rest, hplace', -, hkept', -⟩ := hq.exists_of_replace_eq hbars hclosing hcloses hleft
  obtain ⟨inside, rfl⟩ := hq.suffix_of_reaches hplace'.reaches
  obtain ⟨front, rfl⟩ := hq.suffix_of_reaches hplace.reaches
  refine ⟨front, inside, rest, by simp only [List.append_assoc], ?_, ?_⟩
  · exact ⟨_, (List.append_assoc _ _ _).symm, hplace, hkept⟩
  · refine ⟨rest, by simp only [List.append_assoc], ?_, hkept'⟩
    rw [List.append_assoc before]
    exact hplace.trans (hkept.trans hplace')

/-- Marks in what some passes leave, whose characters all of them leave alone, are marks that they have kept. -/
theorem exists_keepThrough {later : List Pattern} (hlater : ∀ q ∈ later, q.Steady ∧ q.Bars (· ∈ opening ++ closing))
    (hopening : opening ≠ []) (hclosing : closing ≠ [])
    (h : replaceAll later t = before ++ opening ++ body ++ closing ++ w) :
    ∃ front inside rest, t = front ++ opening ++ inside ++ closing ++ rest ∧
      KeepThrough opening later front before t ∧
      KeepThrough closing later (front ++ opening ++ inside) (before ++ opening ++ body) t := by
  induction later generalizing t with
  | nil => exact ⟨before, body, w, h, rfl, rfl⟩
  | cons q qs ih =>
    obtain ⟨⟨hq, hbars⟩, hqs⟩ := List.forall_mem_cons.mp hlater
    obtain ⟨front, inside, rest, hleft, hopens, hcloses⟩ := ih hqs h
    obtain ⟨front', inside', rest', ht, hkept, hkept'⟩ := hq.exists_keeps hbars hopening hclosing hleft
    exact ⟨front', inside', rest', ht, ⟨front, hkept, hopens⟩, ⟨_, hkept', hcloses⟩⟩

end Keeping

/-- That a mark, which stands behind some text when a text has been erased from and some passes have gone over the rest,
is one that the erasing has left by joining two characters in it. -/
def JoinsMark (p : Pattern) (later : List Pattern) (mark before t : Text) : Prop :=
  ∃ front, KeepThrough mark later front before (p.replace t) ∧ p.JoinsIn mark front t

/-- A comment between two marks that is left when a text has been erased from and some passes have gone over the rest,
begins in the text where the eraser misses it, or the eraser has joined two characters in one of the two marks. -/
theorem Erases.exists_or_joinsMark (hp : p.Erases) {later : List Pattern} {opening closing before body w t : Text}
    (hlater : ∀ q ∈ later, q.Steady ∧ q.Bars (· ∈ opening ++ closing)) (hopening : opening ≠ [])
    (hclosing : closing ≠ []) (h : replaceAll later (p.replace t) = before ++ opening ++ body ++ closing ++ w) :
    (∃ place, place <:+ t ∧ p none place = none ∧ ∃ body, opening ++ body ++ closing <+: place) ∨
      p.JoinsMark later opening before t ∨ p.JoinsMark later closing (before ++ opening ++ body) t := by
  obtain ⟨front, inside, rest, hleft, hopens, hcloses⟩ := exists_keepThrough hlater hopening hclosing h
  have hsplit : p.replace t = front ++ opening ++ (inside ++ closing ++ rest) := by
    rw [hleft]
    simp only [List.append_assoc]
  rcases hp.exists_or_joinsIn hopening hsplit with ⟨behind, hplace, hmiss, hbehind, hrest⟩ | hjoins
  · rcases hp.exists_or_joinsIn hclosing hrest with ⟨more, hplace', -⟩ | hjoins
    · obtain ⟨body', rfl⟩ := hp.suffix_of_reaches hplace'.reaches
      refine .inl ⟨_, hp.suffix_of_reaches hplace.reaches, hmiss, body', more, ?_⟩
      simp only [List.append_assoc]
    · exact .inr (.inr ⟨_, hcloses, hjoins.of_leaves hbehind⟩)
  · exact .inr (.inl ⟨front, hopens, hjoins⟩)

end Wording.Tokens.Pattern
