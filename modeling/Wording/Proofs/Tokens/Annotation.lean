import Wording.Tokens.TypeScript
import Wording.Proofs.Text.Blank
import Wording.Proofs.Tokens.Name
import Wording.Proofs.Tokens.Passes

/-! # Simple annotations

A simple annotation is a colon and a type before a mark, with or without white space around the type. It is taken
exactly where these stand (`annotated_append`, `exists_of_annotated`), and the mark is put back for it.

One is left behind their removal exactly where a removed one stood right behind a colon and a type, since the mark that
is put back stands behind these then; `HoldsChain` says that of the text before. What is left is followed back to the
text character by character, by induction on the reading: from a colon that is left up to its mark there is either
nothing that was put in, or the mark alone. Annotations before another mark stay as they are, so the two removals of the
language do not disturb each other.
-/

set_option autoImplicit false

namespace Wording.Tokens.TypeScript

open Text (isBlank)

variable {mark : Char} {kept gap more body t : Text} {before : Option Char} {hit : Hit}

/-! ## Types -/

/-- A simple type, with or without white space before and behind it. -/
def IsPaddedType (body : Text) : Prop :=
  ∃ front type back, (∀ c ∈ front, isBlank c = true) ∧ typeAlphabet.isName type = true ∧
    (∀ c ∈ back, isBlank c = true) ∧ body = front ++ (type ++ back)

/-- White space and the characters of types. -/
def isBlankOrType (c : Char) : Bool := isBlank c || typeAlphabet.later c

theorem typeAlphabet_later_of_first (c : Char) (h : typeAlphabet.first c = true) : typeAlphabet.later c = true := by
  simp only [typeAlphabet, Bool.or_eq_true] at h ⊢
  exact .inl (.inl (.inl (.inl (.inl (dollarAlphabet_later_of_first h)))))

theorem isBlank_of_typeAlphabet {c : Char} (h : typeAlphabet.later c = true) : isBlank c = false := by
  simp only [typeAlphabet, Bool.or_eq_true, decide_eq_true_eq] at h
  rcases h with ((((hname | rfl) | rfl) | rfl) | rfl) | rfl
  · exact Text.isBlank_of_visible (visible_of_dollarAlphabet hname)
  all_goals decide

theorem IsPaddedType.forall_mem (h : IsPaddedType body) : ∀ c ∈ body, isBlankOrType c = true := by
  obtain ⟨front, type, back, hfront, htype, hback, rfl⟩ := h
  intro c hc
  rw [isBlankOrType, Bool.or_eq_true]
  rcases List.mem_append.mp hc with hc | hc
  · exact .inl (hfront c hc)
  · rcases List.mem_append.mp hc with hc | hc
    · exact .inr (Alphabet.later_of_mem_name typeAlphabet_later_of_first htype hc)
    · exact .inl (hback c hc)

theorem IsPaddedType.append (h : IsPaddedType body) (hgap : ∀ c ∈ gap, isBlank c = true) :
    IsPaddedType (body ++ gap) := by
  obtain ⟨front, type, back, hfront, htype, hback, rfl⟩ := h
  refine ⟨front, type, back ++ gap, hfront, htype, fun c hc => ?_, by simp only [List.append_assoc]⟩
  exact (List.mem_append.mp hc).elim (hback c) (hgap c)

theorem IsPaddedType.of_append (h : IsPaddedType (body ++ gap)) (hgap : ∀ c ∈ gap, isBlank c = true) :
    IsPaddedType body := by
  obtain ⟨front, type, back, hfront, htype, hback, heq⟩ := h
  rw [← List.append_assoc] at heq
  rcases List.append_eq_append_iff.mp heq with ⟨inner, hbody, rfl⟩ | ⟨inner, rfl, rfl⟩
  · rcases List.eq_nil_or_concat' inner with rfl | ⟨init, c, rfl⟩
    · rw [List.append_nil] at hbody
      exact ⟨front, type, [], hfront, htype, fun c hc => (List.not_mem_nil hc).elim, by rw [List.append_nil, hbody]⟩
    · -- A type ends with a character of types, so no white space that is dropped reaches into it.
      rcases List.eq_nil_or_concat' type with rfl | ⟨init', d, rfl⟩
      · cases htype
      · rw [← List.append_assoc, ← List.append_assoc] at hbody
        obtain rfl : d = c := List.singleton_inj.mp (List.append_inj_right' hbody rfl)
        have hlater : typeAlphabet.later d = true :=
          Alphabet.later_of_mem_name typeAlphabet_later_of_first htype List.mem_concat_self
        have hblank : isBlank d = true := hgap d (List.mem_append_left _ List.mem_concat_self)
        rw [isBlank_of_typeAlphabet hlater] at hblank
        cases hblank
  · refine ⟨front, type, inner, hfront, htype, fun c hc => hback c (List.mem_append_left _ hc), ?_⟩
    rw [List.append_assoc]

/-- Up to the first character that is not of a class, two beginnings of a text are the same. -/
theorem eq_of_append_cons_eq {member : Char → Bool} {c d : Char} {x y u v : Text} (hx : ∀ e ∈ x, member e = true)
    (hy : ∀ e ∈ y, member e = true) (hc : member c = false) (hd : member d = false)
    (h : x ++ c :: u = y ++ d :: v) : x = y ∧ c = d ∧ u = v := by
  have hfront : ∀ {z : Text} {b : Char}, (∀ e ∈ z, member e = true) → member b = false →
      ∀ w, (z ++ b :: w).takeWhile member = z := by
    intro z b hz hb w
    rw [List.takeWhile_append_of_pos hz, List.takeWhile_cons_of_neg (Bool.eq_false_iff.mp hb), List.append_nil]
  obtain rfl : x = y := by rw [← hfront hx hc u, h, hfront hy hd v]
  exact ⟨rfl, List.cons.inj (List.append_cancel_left h)⟩

/-! ## Annotations -/

/-- A text holds a simple annotation before a mark. -/
def HoldsAnnotation (mark : Char) (t : Text) : Prop := ∃ body, IsPaddedType body ∧ ':' :: (body ++ [mark]) <:+: t

/-- A text holds a simple annotation before a mark that stands right behind another colon and type. -/
def HoldsChain (mark : Char) (t : Text) : Prop :=
  ∃ first second, IsPaddedType first ∧ IsPaddedType second ∧ ':' :: (first ++ ':' :: second ++ [mark]) <:+: t

/-- What begins and ends with two characters stands in a text where these stand around the rest. -/
theorem infix_iff_exists {b c : Char} {r : Text} : b :: (r ++ [c]) <:+: t ↔ ∃ x w, t = x ++ b :: (r ++ c :: w) := by
  constructor
  · rintro ⟨x, w, rfl⟩
    exact ⟨x, w, by simp⟩
  · rintro ⟨x, w, rfl⟩
    exact ⟨x, w, by simp⟩

/-- What is put back for an annotation: its mark, behind white space and before anything but a colon, and less than the
annotation weighs. The mark can stand neither around a type nor in one. -/
structure PutsBack (mark : Char) (kept : Text) : Prop where
  free : isBlankOrType mark = false
  ne_colon : mark ≠ ':'
  split : ∃ gap more, (∀ c ∈ gap, isBlank c = true) ∧ kept = gap ++ mark :: more
  noColon : ':' ∉ kept
  light : Pattern.weight kept ≤ 3

theorem PutsBack.mark_mem (h : PutsBack mark kept) : mark ∈ kept := by
  obtain ⟨gap, more, -, rfl⟩ := h.split
  exact List.mem_append_right gap List.mem_cons_self

/-- Where a colon, a type and a mark stand, they are taken. -/
theorem annotated_append (hmark : isBlankOrType mark = false) (h : IsPaddedType body) (rest : Text) :
    annotated mark kept before (':' :: (body ++ mark :: rest)) = some ⟨kept, rest⟩ := by
  obtain ⟨hblank, hlater⟩ := Bool.or_eq_false_iff.mp hmark
  obtain ⟨front, type, back, hfront, htype, hback, rfl⟩ := h
  have hname : typeAlphabet.takeName? (type ++ (back ++ mark :: rest)) = some (type, back ++ mark :: rest) := by
    refine Alphabet.takeName?_append htype fun c hc => ?_
    cases back with
    | nil =>
      obtain rfl : mark = c := Option.some.inj hc
      exact hlater
    | cons b bs =>
      obtain rfl : b = c := Option.some.inj hc
      refine Bool.eq_false_iff.mpr fun hlater' => ?_
      have hb := hback b List.mem_cons_self
      rw [isBlank_of_typeAlphabet hlater'] at hb
      cases hb
  have htypeHead : ∀ c ∈ (type ++ (back ++ mark :: rest)).head?, isBlank c = false := by
    intro c hc
    cases type with
    | nil => cases htype
    | cons x xs =>
      obtain rfl : x = c := Option.some.inj hc
      exact isBlank_of_typeAlphabet (typeAlphabet_later_of_first x (Bool.and_eq_true_iff.mp htype).1)
  have hmarkHead : ∀ c ∈ (mark :: rest).head?, isBlank c = false := by
    intro c hc
    obtain rfl : mark = c := Option.some.inj hc
    exact hblank
  simp only [annotated, List.append_assoc, Text.dropBeginning?, if_true, Option.bind_eq_bind, Option.bind_some,
    skipBlanks_append hfront htypeHead, hname, skipBlanks_append hback hmarkHead, pure]

/-- What is taken is a colon, a type and a mark. -/
theorem exists_of_annotated (h : annotated mark kept before t = some hit) :
    hit.piece = kept ∧ ∃ body, IsPaddedType body ∧ t = ':' :: (body ++ mark :: hit.rest) := by
  simp only [annotated, Option.bind_eq_bind, Option.bind_eq_some_iff, pure, Option.some.injEq,
    Text.dropBeginning?_eq_some_iff] at h
  obtain ⟨behind, rfl, ⟨type, last⟩, hname, rest, hrest, rfl⟩ := h
  obtain ⟨htype, hbehind⟩ := Alphabet.takeName?_eq_some hname
  obtain ⟨front, hfront, hfrontEq⟩ := exists_skipBlanks behind
  obtain ⟨back, hback, hbackEq⟩ := exists_skipBlanks last
  refine ⟨rfl, front ++ (type ++ back), ⟨front, type, back, hfront, htype, hback, rfl⟩, ?_⟩
  rw [hfrontEq, hbehind, hbackEq, hrest]
  simp only [List.cons_append, List.nil_append, List.append_assoc]

/-- Replacing annotations reads a text from left to right. -/
theorem annotated_steady (mark : Char) (kept : Text) : (annotated mark kept).Steady where
  ignores _ _ := rfl
  takes := by
    intro t hit hhit
    obtain ⟨-, body, -, rfl⟩ := exists_of_annotated hhit
    exact ⟨':' :: (body ++ [mark]), List.cons_ne_nil _ _, by simp⟩

/-- Replacing annotations by texts without the characters of a class leaves these alone. -/
theorem annotated_bars {member : Char → Prop} (hne : kept ≠ []) (hkept : ∀ c ∈ kept, ¬ member c) :
    (annotated mark kept).Bars member := by
  intro t hit hhit
  rw [(exists_of_annotated hhit).1]
  exact ⟨hkept, fun hnil => absurd hnil hne⟩

theorem annotated_ne_none_iff (hmark : isBlankOrType mark = false) :
    annotated mark kept before t ≠ none ↔ ∃ body, IsPaddedType body ∧ ':' :: (body ++ [mark]) <+: t := by
  constructor
  · intro h
    obtain ⟨hit, hhit⟩ := Option.ne_none_iff_exists'.mp h
    obtain ⟨-, body, hbody, rfl⟩ := exists_of_annotated hhit
    refine ⟨body, hbody, hit.rest, ?_⟩
    rw [List.cons_append, List.append_assoc, List.singleton_append]
  · rintro ⟨body, hbody, rest, rfl⟩
    rw [List.cons_append, List.append_assoc, List.singleton_append, annotated_append hmark hbody]
    exact Option.some_ne_none _

theorem holdsAnnotation_iff (hmark : isBlankOrType mark = false) :
    HoldsAnnotation mark t ↔ (annotated mark kept).FoundIn t := by
  have hbegins : ∀ place, annotated mark kept none place ≠ none ↔
      ∃ u, (∃ body, IsPaddedType body ∧ ':' :: (body ++ [mark]) = u) ∧ u <+: place := fun place => by
    rw [annotated_ne_none_iff hmark, exists_exists_and_eq_and]
  rw [Pattern.foundIn_iff hbegins, exists_exists_and_eq_and, HoldsAnnotation]

/-- Less is left of an annotation than its colon, its type and its mark weigh. -/
theorem annotated_lessens (hkept : PutsBack mark kept) : (annotated mark kept).Lessens where
  toSteady := annotated_steady mark kept
  lighter := by
    intro t hit hhit
    obtain ⟨hpiece, body, ⟨front, type, back, -, htype, -, rfl⟩, rfl⟩ := exists_of_annotated hhit
    have htypeNe : type ≠ [] := by
      rintro rfl
      cases htype
    have hcolon : Pattern.weight [':'] = 2 := rfl
    have htypePos := Pattern.weight_pos htypeNe
    have hmarkPos := Pattern.weight_pos (List.cons_ne_nil mark [])
    have hlight := hkept.light
    have hsplit : ':' :: ((front ++ (type ++ back)) ++ mark :: hit.rest) =
        [':'] ++ (front ++ (type ++ (back ++ ([mark] ++ hit.rest)))) := by
      simp only [List.cons_append, List.nil_append, List.append_assoc]
    rw [hpiece, hsplit]
    simp only [Pattern.weight_append]
    omega

/-! ## What is left

A hit begins with the only colon that it takes and ends with the only mark. So a colon stays if something else comes
before the mark behind it that stands neither around a type nor in one, and all that comes up to there stays with it.
-/

theorem annotated_eq_none {r w : Text} {b c : Char} (hr : mark ∉ r) (hc : isBlankOrType c = false)
    (hne : c ≠ mark) : annotated mark kept before (b :: (r ++ c :: w)) = none := by
  refine Option.eq_none_iff_forall_ne_some.mpr fun hit hhit => ?_
  obtain ⟨-, body, hbody, heq⟩ := exists_of_annotated hhit
  rcases List.append_eq_append_iff.mp (List.cons.inj heq).2 with ⟨y, rfl, hbehind⟩ | ⟨y, rfl, hbehind⟩
  · cases y with
    | nil => exact hne (List.cons.inj hbehind).1
    | cons z zs =>
      obtain rfl : c = z := (List.cons.inj hbehind).1
      have hmember := hbody.forall_mem c (List.mem_append_right r List.mem_cons_self)
      rw [hc] at hmember
      cases hmember
  · cases y with
    | nil => exact hne (List.cons.inj hbehind).1.symm
    | cons z zs =>
      obtain rfl : mark = z := (List.cons.inj hbehind).1
      exact hr (List.mem_append_right body List.mem_cons_self)

theorem replace_annotated_append {r w : Text} {c : Char} (hr : mark ∉ r) (hc : isBlankOrType c = false)
    (hne : c ≠ mark) : (annotated mark kept).replace (r ++ c :: w) = r ++ (annotated mark kept).replace (c :: w) := by
  induction r with
  | nil => rfl
  | cons b bs ih =>
    have hbs : mark ∉ bs := fun hmem => hr (List.mem_cons_of_mem _ hmem)
    rw [List.cons_append, (annotated_steady mark kept).replace_of_miss (annotated_eq_none hbs hc hne), ih hbs,
      List.cons_append]

/-- A colon stays, and all behind it up to a character that no hit can take, if no mark stands there. -/
theorem exists_replace_annotated_eq (kept : Text) (hcolon : mark ≠ ':') {x r w : Text} {c : Char} (hr : mark ∉ r)
    (hc : isBlankOrType c = false) (hne : c ≠ mark) (ht : t = x ++ ':' :: (r ++ c :: w)) :
    ∃ x', (annotated mark kept).replace t = x' ++ ':' :: (r ++ (annotated mark kept).replace (c :: w)) := by
  have hsteady := annotated_steady mark kept
  induction t using hsteady.reading_induction generalizing x with
  | nil => exact absurd ht.symm (List.append_ne_nil_of_right_ne_nil x (List.cons_ne_nil _ _))
  | miss d ds hmiss ih =>
    rw [hsteady.replace_of_miss hmiss]
    cases x with
    | nil =>
      obtain ⟨rfl, rfl⟩ := List.cons.inj ht
      exact ⟨[], by rw [replace_annotated_append hr hc hne, List.nil_append]⟩
    | cons y ys =>
      obtain ⟨rfl, hds⟩ := List.cons.inj ht
      obtain ⟨x', hx'⟩ := ih hds
      exact ⟨d :: x', by rw [hx', List.cons_append]⟩
  | hit t hit hhit ih =>
    have behind : ∀ {y : Text}, hit.rest = y ++ ':' :: (r ++ c :: w) →
        ∃ x', (annotated mark kept).replace t = x' ++ ':' :: (r ++ (annotated mark kept).replace (c :: w)) := by
      intro y hy
      obtain ⟨x', hx'⟩ := ih hy
      exact ⟨hit.piece ++ x', by rw [hsteady.replace_of_hit hhit, hx', List.append_assoc]⟩
    obtain ⟨-, body, hbody, hbegins⟩ := exists_of_annotated hhit
    have hsplit : (':' :: (body ++ [mark])) ++ hit.rest = x ++ ':' :: (r ++ c :: w) := by
      rw [← ht, hbegins, List.cons_append, List.append_assoc, List.singleton_append]
    rcases List.append_eq_append_iff.mp hsplit with ⟨y, -, hrest⟩ | ⟨y, hfront, hbehind⟩
    · exact behind hrest
    · cases x with
      | nil =>
        rw [ht, List.nil_append, annotated_eq_none hr hc hne] at hhit
        cases hhit
      | cons d ds =>
        -- Behind its first character, a hit holds no colon that could stay.
        cases y with
        | nil => exact behind (y := []) hbehind.symm
        | cons z zs =>
          obtain rfl : ':' = z := (List.cons.inj hbehind).1
          have hmem : ':' ∈ body ++ [mark] := by
            rw [(List.cons.inj hfront).2]
            exact List.mem_append_right ds List.mem_cons_self
          rcases List.mem_append.mp hmem with hmem | hmem
          · exact absurd (hbody.forall_mem _ hmem) (by decide)
          · exact absurd (List.mem_singleton.mp hmem).symm hcolon

/-- A character that is left stands in the text before, behind all that is left before it, or it is put in where an
annotation stands, if no mark is left before it. -/
theorem of_replace_annotated {r w : Text} {c : Char} (hkept : mark ∈ kept) (hr : mark ∉ r)
    (h : (annotated mark kept).replace t = r ++ c :: w) :
    (∃ w', t = r ++ c :: w') ∨ ∃ front place y z, t = front ++ place ∧ annotated mark kept none place ≠ none ∧
      r = front ++ y ∧ kept = y ++ c :: z := by
  have hsteady := annotated_steady mark kept
  induction t using hsteady.reading_induction generalizing r with
  | nil => exact absurd h (List.append_ne_nil_of_right_ne_nil r (List.cons_ne_nil c w)).symm
  | miss d ds hmiss ih =>
    rw [hsteady.replace_of_miss hmiss] at h
    cases r with
    | nil =>
      obtain ⟨rfl, -⟩ := List.cons.inj h
      exact .inl ⟨ds, rfl⟩
    | cons b bs =>
      obtain ⟨rfl, htail⟩ := List.cons.inj h
      rcases ih (fun hmem => hr (List.mem_cons_of_mem _ hmem)) htail with
        ⟨w', rfl⟩ | ⟨front, place, y, z, rfl, hplace, rfl, hput⟩
      · exact .inl ⟨w', rfl⟩
      · exact .inr ⟨d :: front, place, y, z, rfl, hplace, rfl, hput⟩
  | hit t hit hhit ih =>
    rw [hsteady.replace_of_hit hhit, (exists_of_annotated hhit).1] at h
    rcases List.append_eq_append_iff.mp h with ⟨y, rfl, -⟩ | ⟨y, hput, hbehind⟩
    · exact absurd (List.mem_append_left y hkept) hr
    · cases y with
      | nil =>
        rw [List.append_nil] at hput
        exact absurd (hput ▸ hkept) hr
      | cons z zs =>
        obtain rfl : c = z := (List.cons.inj hbehind).1
        exact .inr ⟨[], t, r, zs, rfl, by simp [hhit], rfl, hput⟩

/-- What is left from a colon on comes from a colon in the text before. -/
theorem exists_behind_colon (hkept : PutsBack mark kept) {x w : Text}
    (h : (annotated mark kept).replace t = x ++ ':' :: w) :
    ∃ behind, ':' :: behind <:+ t ∧ annotated mark kept none (':' :: behind) = none ∧
      (annotated mark kept).replace behind = w := by
  have hsteady := annotated_steady mark kept
  have hbars : (annotated mark kept).Bars (· = ':') :=
    annotated_bars (List.ne_nil_of_mem hkept.mark_mem) fun c hc hcase => hkept.noColon (hcase ▸ hc)
  rw [List.append_cons] at h
  obtain ⟨behind, hplace, hmiss, -, hleft⟩ :=
    hsteady.exists_of_replace_eq hbars (List.cons_ne_nil _ _) (fun c hc => List.mem_singleton.mp hc) h
  exact ⟨behind, hsteady.suffix_of_reaches hplace.reaches, hmiss, hleft⟩

/-- Where annotations before a mark are taken out, one is left exactly if one stood right behind a colon and a type. -/
theorem holdsAnnotation_replace_iff (hkept : PutsBack mark kept) :
    HoldsAnnotation mark ((annotated mark kept).replace t) ↔ HoldsChain mark t := by
  have hfree : ∀ {body : Text}, IsPaddedType body → mark ∉ body := fun hbody hmem =>
    Bool.eq_false_iff.mp hkept.free (hbody.forall_mem mark hmem)
  obtain ⟨gap, more, hgap, hsplit⟩ := hkept.split
  constructor
  · rintro ⟨body, hbody, hstands⟩
    obtain ⟨x, w, hleft⟩ := infix_iff_exists.mp hstands
    obtain ⟨behind, hsuffix, hmiss, hbehind⟩ := exists_behind_colon hkept hleft
    rcases of_replace_annotated hkept.mark_mem (hfree hbody) hbehind with
      ⟨w', rfl⟩ | ⟨front, place, y, z, rfl, hplace, rfl, hput⟩
    · -- Had the annotation been there before, it would have been taken.
      rw [annotated_append hkept.free hbody] at hmiss
      cases hmiss
    · have hother : ∀ {u : Text}, mark ∉ u → ∀ c ∈ u, (c != mark) = true := fun hu c hc =>
        bne_iff_ne.mpr fun heq => hu (heq ▸ hc)
      have hmarkY : mark ∉ y := fun hmem => hfree hbody (List.mem_append_right front hmem)
      have hmarkGap : mark ∉ gap := fun hmem =>
        Bool.eq_false_iff.mp (Bool.or_eq_false_iff.mp hkept.free).1 (hgap mark hmem)
      obtain ⟨rfl, -⟩ := eq_of_append_cons_eq (hother hmarkGap) (hother hmarkY) (by simp) (by simp)
        (hsplit.symm.trans hput)
      obtain ⟨second, hsecond, behind', rfl⟩ := (annotated_ne_none_iff hkept.free).mp hplace
      refine ⟨front, second, hbody.of_append hgap, hsecond, List.IsInfix.trans ?_ hsuffix.isInfix⟩
      exact infix_iff_exists.mpr ⟨[], behind', by simp⟩
  · rintro ⟨first, second, hfirst, hsecond, hstands⟩
    obtain ⟨x, w, ht⟩ := infix_iff_exists.mp hstands
    rw [List.append_assoc, List.cons_append] at ht
    obtain ⟨x', hx'⟩ :=
      exists_replace_annotated_eq kept hkept.ne_colon (hfree hfirst) (by decide) hkept.ne_colon.symm ht
    have hhit : annotated mark kept none (':' :: (second ++ mark :: w)) = some ⟨kept, w⟩ :=
      annotated_append hkept.free hsecond w
    refine ⟨first ++ gap, hfirst.append hgap, infix_iff_exists.mpr ⟨x', more ++ (annotated mark kept).replace w, ?_⟩⟩
    rw [hx', (annotated_steady mark kept).replace_of_hit hhit]
    simp [hsplit]

/-! ## Other marks -/

section OtherMarks

variable {other : Char}

/-- From a colon up to another mark, a text stays as it is if the mark does not stand there. -/
theorem infix_replace_annotated_iff (hkept : PutsBack mark kept) (hother : isBlankOrType other = false)
    (hcolon : other ≠ ':') (hput : other ∉ kept) {r : Text} (hr : mark ∉ r) :
    ':' :: (r ++ [other]) <:+: (annotated mark kept).replace t ↔ ':' :: (r ++ [other]) <:+: t := by
  have hne : other ≠ mark := fun heq => hput (heq ▸ hkept.mark_mem)
  constructor
  · intro hstands
    obtain ⟨x, w, hleft⟩ := infix_iff_exists.mp hstands
    obtain ⟨behind, hsuffix, -, hbehind⟩ := exists_behind_colon hkept hleft
    rcases of_replace_annotated hkept.mark_mem hr hbehind with ⟨w', rfl⟩ | ⟨-, -, y, z, -, -, -, hsplit⟩
    · exact (infix_iff_exists.mpr ⟨[], w', rfl⟩).trans hsuffix.isInfix
    · exact absurd (hsplit ▸ List.mem_append_right y List.mem_cons_self) hput
  · intro hstands
    obtain ⟨x, w, ht⟩ := infix_iff_exists.mp hstands
    obtain ⟨x', hx'⟩ := exists_replace_annotated_eq kept hkept.ne_colon hr hother hne ht
    have hmiss : annotated mark kept none (other :: w) = none := by
      refine Option.eq_none_iff_forall_ne_some.mpr fun hit hhit => hcolon ?_
      obtain ⟨-, body, -, heq⟩ := exists_of_annotated hhit
      exact (List.cons.inj heq).1
    rw [(annotated_steady mark kept).replace_of_miss hmiss] at hx'
    exact infix_iff_exists.mpr ⟨x', _, hx'⟩

/-- Annotations before another mark stay. -/
theorem holdsAnnotation_replace_other_iff (hkept : PutsBack mark kept) (hother : isBlankOrType other = false)
    (hcolon : other ≠ ':') (hput : other ∉ kept) :
    HoldsAnnotation other ((annotated mark kept).replace t) ↔ HoldsAnnotation other t := by
  refine exists_congr fun body => and_congr_right fun hbody => ?_
  refine infix_replace_annotated_iff hkept hother hcolon hput fun hmem => ?_
  exact Bool.eq_false_iff.mp hkept.free (hbody.forall_mem mark hmem)

theorem holdsChain_replace_other_iff (hkept : PutsBack mark kept) (hother : isBlankOrType other = false)
    (hcolon : other ≠ ':') (hput : other ∉ kept) :
    HoldsChain other ((annotated mark kept).replace t) ↔ HoldsChain other t := by
  refine exists_congr fun first => exists_congr fun second =>
    and_congr_right fun hfirst => and_congr_right fun hsecond => ?_
  refine infix_replace_annotated_iff hkept hother hcolon hput fun hmem => ?_
  rcases List.mem_append.mp hmem with hmem | hmem
  · exact Bool.eq_false_iff.mp hkept.free (hfirst.forall_mem mark hmem)
  · rcases List.mem_cons.mp hmem with heq | hmem
    · exact hkept.ne_colon heq
    · exact Bool.eq_false_iff.mp hkept.free (hsecond.forall_mem mark hmem)

end OtherMarks

end Wording.Tokens.TypeScript
