import Mathlib.Data.List.TakeWhile
import Wording.Tokens.Name
import Wording.Proofs.Text.Blank
import Wording.Proofs.Text.FirstSeen
import Wording.Proofs.Text.Lines
import Wording.Proofs.Text.Search
import Wording.Proofs.Tokens.Pattern

/-! # Names as pieces of the text

The shapes in which names are found answer names of their alphabet that stand in the text, and the names that are
collected are pieces of these answers: trimmed, or trimmed parts between commas. Each shape is a word, a point or a mark
with a name beside it, and has a lemma of its own that says what it answers (`afterWord_yields`, `afterPoint_yields`,
`beforeMark_yields`).

An alphabet is solid if no white space is in it and all that begins a name may go on with it. In such an alphabet a name
is taken as a whole (`Alphabet.takeName?_eq_some_iff`), and trimming and cutting at commas leave it as it is, so that
what is collected are the pieces themselves, without the keywords and each once (`Alphabet.Solid.collectNames_eq`).
-/

set_option autoImplicit false

namespace Wording.Tokens

open Text (hasBlank isBlank)

/-! ## Steps -/

theorem suffix_of_dropBeginning? {piece t rest : Text} (h : Text.dropBeginning? piece t = some rest) :
    rest <:+ t :=
  ⟨piece, (Text.dropBeginning?_eq_some_iff.mp h).symm⟩

theorem suffix_of_skipSomeBlanks? {t rest : Text} (h : skipSomeBlanks? t = some rest) : rest <:+ t := by
  cases t with
  | nil => cases h
  | cons c cs =>
    rw [skipSomeBlanks?] at h
    split at h
    · obtain rfl : skipBlanks cs = rest := Option.some.inj h
      exact (List.dropWhile_suffix _).trans (List.suffix_cons c cs)
    · cases h

/-- Up to a character that is none, white space is skipped. -/
theorem skipBlanks_append {blanks u : Text} (hblanks : ∀ c ∈ blanks, isBlank c = true)
    (hu : ∀ c ∈ u.head?, isBlank c = false) : skipBlanks (blanks ++ u) = u := by
  rw [skipBlanks, List.dropWhile_append_of_pos hblanks]
  cases u with
  | nil => rfl
  | cons c cs => rw [List.dropWhile_cons_of_neg (Bool.eq_false_iff.mp (hu c rfl))]

theorem exists_skipBlanks (t : Text) : ∃ blanks, (∀ c ∈ blanks, isBlank c = true) ∧ t = blanks ++ skipBlanks t :=
  ⟨t.takeWhile isBlank, fun _ => List.mem_takeWhile_imp, List.takeWhile_append_dropWhile.symm⟩

/-- Where some white space is skipped, it stands at the beginning of the text. -/
theorem exists_of_skipSomeBlanks? {t rest : Text} (h : skipSomeBlanks? t = some rest) :
    ∃ blanks, blanks ≠ [] ∧ (∀ c ∈ blanks, isBlank c = true) ∧ t = blanks ++ rest := by
  cases t with
  | nil => cases h
  | cons c cs =>
    rw [skipSomeBlanks?] at h
    split at h
    next hc =>
      obtain rfl : skipBlanks cs = rest := Option.some.inj h
      obtain ⟨blanks, hblanks, hcs⟩ := exists_skipBlanks cs
      exact ⟨c :: blanks, List.cons_ne_nil _ _, List.forall_mem_cons.mpr ⟨hc, hblanks⟩, congrArg (c :: ·) hcs⟩
    next => cases h

namespace Alphabet

variable {a : Alphabet} {t name rest : Text}

/-- A name that is taken is a name, and the text is the name and the rest. -/
theorem takeName?_eq_some (h : a.takeName? t = some (name, rest)) :
    a.isName name = true ∧ t = name ++ rest := by
  cases t with
  | nil => cases h
  | cons c cs =>
    rw [takeName?] at h
    split at h
    next hc =>
      cases h
      refine ⟨?_, by rw [List.cons_append, List.takeWhile_append_dropWhile]⟩
      rw [isName, hc, Bool.true_and]
      exact List.all_takeWhile
    next => cases h

/-- All characters of a name may stand in one, if those that begin a name may also go on with it. -/
theorem later_of_mem_name (hfirst : ∀ c, a.first c = true → a.later c = true)
    (hname : a.isName name = true) {c : Char} (hc : c ∈ name) : a.later c = true := by
  cases name with
  | nil => cases hc
  | cons x xs =>
    obtain ⟨hx, hxs⟩ := Bool.and_eq_true_iff.mp hname
    rcases List.mem_cons.mp hc with rfl | hc
    · exact hfirst c hx
    · exact List.all_eq_true.mp hxs c hc

/-- A name that stands at the beginning of an end of the text is a piece of the text. -/
theorem infix_of_takeName? {whole : Text} (h : a.takeName? t = some (name, rest))
    (ht : t <:+ whole) : name <:+: whole :=
  ((takeName?_eq_some h).2 ▸ List.prefix_append name rest).isInfix.trans ht.isInfix

/-- Behind a word stands a name. -/
theorem afterWord_yields (a : Alphabet) (words : List Text) :
    (a.afterWord words).Yields (a.isName · = true) := by
  intro before t hit h
  obtain ⟨word, -, h⟩ := List.exists_of_findSome?_eq_some h
  simp only [Option.bind_eq_bind, Option.bind_eq_some_iff, pure, Option.some.injEq] at h
  obtain ⟨behind, hword, gap, hgap, ⟨name, rest⟩, hname, rfl⟩ := h
  have hgapSuffix := (suffix_of_skipSomeBlanks? hgap).trans (suffix_of_dropBeginning? hword)
  exact ⟨(takeName?_eq_some hname).1, infix_of_takeName? hname hgapSuffix⟩

theorem afterPoint_yields (a : Alphabet) : a.afterPoint.Yields (a.isName · = true) := by
  intro before t hit h
  simp only [afterPoint, Option.bind_eq_bind, Option.bind_eq_some_iff, pure, Option.some.injEq] at h
  obtain ⟨behind, hpoint, ⟨name, rest⟩, hname, rfl⟩ := h
  exact ⟨(takeName?_eq_some hname).1, infix_of_takeName? hname (suffix_of_dropBeginning? hpoint)⟩

theorem beforeMark_yields (a : Alphabet) (mark : Char) :
    (a.beforeMark mark).Yields (a.isName · = true) := by
  intro before t hit h
  simp only [beforeMark, Option.bind_eq_bind, Option.bind_eq_some_iff, pure, Option.some.injEq] at h
  obtain ⟨⟨name, behind⟩, hname, rest, -, rfl⟩ := h
  exact ⟨(takeName?_eq_some hname).1, infix_of_takeName? hname (List.suffix_refl t)⟩

end Alphabet

/-- All letters, digits and low lines that begin a name may go on with it. -/
theorem plainAlphabet_later_of_first {c : Char} (h : plainAlphabet.first c = true) :
    plainAlphabet.later c = true := by
  simp only [plainAlphabet, Bool.or_eq_true] at h ⊢
  exact h.imp_left Or.inl

theorem dollarAlphabet_later_of_first {c : Char} (h : dollarAlphabet.first c = true) :
    dollarAlphabet.later c = true := by
  simp only [dollarAlphabet, Bool.or_eq_true] at h ⊢
  exact h.imp_left plainAlphabet_later_of_first

/-- A letter, a digit, a low line or a dollar sign is a character of ASCII that leaves a mark. -/
theorem visible_of_dollarAlphabet {c : Char} (h : dollarAlphabet.later c = true) :
    0x21 ≤ c.toNat ∧ c.toNat ≤ 0x7E := by
  simp only [dollarAlphabet, plainAlphabet, isLetter, isDigit, Bool.or_eq_true, Bool.and_eq_true, decide_eq_true_eq,
    Char.le_def, UInt32.le_iff_toNat_le] at h
  change 0x21 ≤ c.val.toNat ∧ c.val.toNat ≤ 0x7E
  rcases h with (((⟨hfirst, hlast⟩ | ⟨hfirst, hlast⟩) | ⟨hfirst, hlast⟩) | rfl) | rfl
  · exact ⟨Nat.le_trans (by decide) hfirst, Nat.le_trans hlast (by decide)⟩
  · exact ⟨Nat.le_trans (by decide) hfirst, Nat.le_trans hlast (by decide)⟩
  · exact ⟨Nat.le_trans (by decide) hfirst, Nat.le_trans hlast (by decide)⟩
  · decide
  · decide

/-- Where no more characters of a name follow, a name is taken as a whole. -/
theorem Alphabet.takeName?_append {a : Alphabet} {name rest : Text} (hname : a.isName name = true)
    (hrest : ∀ c ∈ rest.head?, a.later c = false) : a.takeName? (name ++ rest) = some (name, rest) := by
  cases name with
  | nil => cases hname
  | cons x xs =>
    obtain ⟨hx, hxs⟩ := Bool.and_eq_true_iff.mp hname
    have hlater : ∀ c ∈ xs, a.later c = true := List.all_eq_true.mp hxs
    have hstop : rest.takeWhile a.later = [] ∧ rest.dropWhile a.later = rest := by
      cases rest with
      | nil => exact ⟨rfl, rfl⟩
      | cons c cs =>
        have hc : ¬ a.later c = true := Bool.eq_false_iff.mp (hrest c rfl)
        exact ⟨List.takeWhile_cons_of_neg hc, List.dropWhile_cons_of_neg hc⟩
    rw [List.cons_append, takeName?, if_pos hx, List.takeWhile_append_of_pos hlater,
      List.dropWhile_append_of_pos hlater, hstop.1, hstop.2, List.append_nil]

/-- A name is taken exactly if it stands at the beginning and no character of names follows it. -/
theorem Alphabet.takeName?_eq_some_iff {a : Alphabet} {t name rest : Text} :
    a.takeName? t = some (name, rest) ↔
      a.isName name = true ∧ t = name ++ rest ∧ ∀ c ∈ rest.head?, a.later c = false := by
  constructor
  · intro h
    obtain ⟨hname, ht⟩ := takeName?_eq_some h
    refine ⟨hname, ht, fun c hc => ?_⟩
    cases t with
    | nil => cases h
    | cons d ds =>
      rw [takeName?] at h
      split at h
      · cases h
        have hstop := List.head?_dropWhile_not a.later ds
        rwa [Option.mem_def.mp hc] at hstop
      · cases h
  · rintro ⟨hname, rfl, hrest⟩
    exact takeName?_append hname hrest

/-- An alphabet without white space in which all that begins a name may go on with it. -/
structure Alphabet.Solid (a : Alphabet) : Prop where
  later_of_first : ∀ c, a.first c = true → a.later c = true
  not_isBlank : ∀ c, a.later c = true → isBlank c = false

theorem dollarAlphabet_solid : dollarAlphabet.Solid :=
  ⟨fun _ => dollarAlphabet_later_of_first, fun _ hc => Text.isBlank_of_visible (visible_of_dollarAlphabet hc)⟩

theorem plainAlphabet_solid : plainAlphabet.Solid :=
  ⟨fun _ => plainAlphabet_later_of_first, fun c hc => dollarAlphabet_solid.not_isBlank c (by simp [dollarAlphabet, hc])⟩

theorem Alphabet.Solid.not_hasBlank {a : Alphabet} (ha : a.Solid) {name : Text} (hname : a.isName name = true) :
    hasBlank name = false :=
  List.any_eq_false.mpr fun c hc =>
    Bool.eq_false_iff.mp (ha.not_isBlank c (later_of_mem_name ha.later_of_first hname hc))

/-! ## Collections -/

theorem Alphabet.Solid.namesOf_name {a : Alphabet} (ha : a.Solid) {isKeyword : Text → Bool} {commasSeparate : Bool}
    (hcomma : commasSeparate = true → a.later ',' = false) {name : Text} (hname : a.isName name = true) :
    namesOf isKeyword commasSeparate name = if isKeyword name then [] else [name] := by
  have hne : name ≠ [] := by
    rintro rfl
    cases hname
  have hwhole : (commasSeparate && List.contains name ',') = false := by
    rw [Bool.and_eq_false_imp]
    intro hseparate
    refine Bool.eq_false_iff.mpr fun hmem => Bool.eq_false_iff.mp (hcomma hseparate) ?_
    exact later_of_mem_name ha.later_of_first hname (List.contains_iff_mem.mp hmem)
  simp only [namesOf, Text.trim_of_not_hasBlank (ha.not_hasBlank hname), decide_eq_false hne, Bool.false_or, hwhole,
    Bool.false_eq_true, if_false]

theorem infix_of_mem_namesOf {isKeyword : Text → Bool} {commasSeparate : Bool} {piece name : Text}
    (h : name ∈ namesOf isKeyword commasSeparate piece) : name <:+: piece := by
  simp only [namesOf] at h
  split at h
  · cases h
  · split at h
    · obtain ⟨part, hpart, rfl⟩ := List.mem_map.mp h
      exact (Text.trim_isInfix part).trans
        ((Text.infix_of_mem_splitOnChar hpart).trans (Text.trim_isInfix piece))
    · rw [List.mem_singleton.mp h]
      exact Text.trim_isInfix piece

/-- Patterns of names collect the pieces that are no keywords. -/
theorem Alphabet.Solid.collectNames_eq {a : Alphabet} (ha : a.Solid) {patterns : List Pattern}
    (hpatterns : ∀ p ∈ patterns, p.Yields (a.isName · = true)) (isKeyword : Text → Bool) (t : Text) :
    collectNames patterns isKeyword false t =
      Text.firstSeen ((patterns.flatMap fun p => p.pieces t).filter fun name => !isKeyword name) := by
  have hnames : ∀ p ∈ patterns, ∀ name ∈ p.pieces t, a.isName name = true := fun p hp _ hname =>
    ((hpatterns p hp).of_mem_pieces hname).1
  have hpieces : ∀ p ∈ patterns, (p.pieces t).flatMap (namesOf isKeyword false) =
      (p.pieces t).filter fun name => !isKeyword name := by
    intro p hp
    have hself : ∀ name ∈ p.pieces t, namesOf isKeyword false name = if isKeyword name then [] else [name] :=
      fun name hname => ha.namesOf_name (absurd · Bool.false_ne_true) (hnames p hp name hname)
    rw [List.flatMap_congr hself]
    generalize p.pieces t = names
    induction names with
    | nil => rfl
    | cons name more ih => cases hkeyword : isKeyword name <;> simp [hkeyword, ih]
  have hall : ((patterns.flatMap fun p => p.pieces t).filter fun name => !isKeyword name).filter (· ≠ []) =
      (patterns.flatMap fun p => p.pieces t).filter fun name => !isKeyword name := by
    refine List.filter_eq_self.mpr fun name hname => decide_eq_true ?_
    obtain ⟨p, hp, hpiece⟩ := List.mem_flatMap.mp (List.mem_filter.mp hname).1
    rintro rfl
    cases hnames p hp [] hpiece
  rw [collectNames, List.flatMap_congr hpieces, ← List.filter_flatMap, hall]

/-- What is collected from a text is what the pieces of the patterns stand for, if there is something in it. -/
theorem mem_collectNames_iff {patterns : List Pattern} {isKeyword : Text → Bool} {commasSeparate : Bool}
    {t name : Text} :
    name ∈ collectNames patterns isKeyword commasSeparate t ↔
      name ≠ [] ∧ ∃ p ∈ patterns, ∃ piece ∈ p.pieces t, name ∈ namesOf isKeyword commasSeparate piece := by
  simp only [collectNames, Text.mem_firstSeen_iff, List.mem_filter, List.mem_flatMap, decide_eq_true_eq, and_comm]

/-- A collected name is not empty and is a piece of something that one of the patterns takes. -/
theorem exists_piece_of_mem_collectNames {patterns : List Pattern} {isKeyword : Text → Bool}
    {commasSeparate : Bool} {t name : Text}
    (h : name ∈ collectNames patterns isKeyword commasSeparate t) :
    name ≠ [] ∧ ∃ p ∈ patterns, ∃ piece ∈ p.pieces t, name <:+: piece := by
  obtain ⟨hne, p, hp, piece, hpiece, hmem⟩ := mem_collectNames_iff.mp h
  exact ⟨hne, p, hp, piece, hpiece, infix_of_mem_namesOf hmem⟩

/-- A collected name is a piece of the text whose characters are all of a class that the patterns keep
to. -/
theorem infix_of_mem_collectNames {patterns : List Pattern} {isKeyword : Text → Bool}
    {commasSeparate : Bool} {member : Char → Prop} {t name : Text}
    (hpatterns : ∀ p ∈ patterns, p.Yields fun piece => ∀ c ∈ piece, member c)
    (h : name ∈ collectNames patterns isKeyword commasSeparate t) :
    name ≠ [] ∧ (∀ c ∈ name, member c) ∧ name <:+: t := by
  obtain ⟨hne, p, hp, piece, hpiece, hname⟩ := exists_piece_of_mem_collectNames h
  obtain ⟨hmember, hinfix⟩ := (hpatterns p hp).of_mem_pieces hpiece
  exact ⟨hne, fun c hc => hmember c (hname.subset hc), hname.trans hinfix⟩

end Wording.Tokens
