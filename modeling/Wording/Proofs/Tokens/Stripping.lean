import Wording.Proofs.Tokens.Annotation
import Wording.Proofs.Tokens.Division
import Wording.Proofs.Tokens.Joined
import Wording.Proofs.Tokens.Python

/-! # What is left of a source without its comments

What is left of a source when its comments and annotations are taken out, and what taking them out once more does to it.
No mark that goes to the line end is left. A comment between two marks is left only where comments that are gone stood
inside one of its marks, an annotation only where one that is gone stood behind a colon and a type; wherever nothing of
this kind is left, taking out once more changes nothing.

Each language has a structure `Stripping` with a field for each of these, and is a list of erasers that are run one
after the other. That a second run changes nothing exactly if none of them finds anything is the law of such runs
(`replaceAll_eq_self_iff`). For the comments that are left, `JoinsMark` names the place: of the very mark that begins or
ends the comment it says that the eraser has joined two of its characters, and follows that mark through the erasers
behind. The eraser of docstrings of one kind never does that to marks of its own kind, as what is left of three quotes
would have begun a hit before (`not_holdsComment_of_erased`).
-/

set_option autoImplicit false

namespace Wording.Tokens

variable {opening closing t : Text} {p : Pattern}

/-! ## Comments that are left -/

/-- Where nothing is put in for what is replaced that a mark could be made of, a text holds no comment that it did not
hold before. -/
theorem HoldsComment.of_replace {member : Char → Prop} (hp : p.Steady) (hbars : p.Bars member) (hopening : opening ≠ [])
    (hclosing : closing ≠ []) (hopens : ∀ c ∈ opening, member c) (hcloses : ∀ c ∈ closing, member c)
    (h : HoldsComment opening closing (p.replace t)) : HoldsComment opening closing t := by
  obtain ⟨body, x, w, hwhole⟩ := h
  have hsplit : p.replace t = x ++ opening ++ (body ++ closing ++ w) := by
    rw [← hwhole]
    simp only [List.append_assoc]
  obtain ⟨behind, hplace, -, -, hleft⟩ := hp.exists_of_replace_eq hbars hopening hopens hsplit
  obtain ⟨place, hplace', -⟩ := hp.exists_of_replace_eq hbars hclosing hcloses hleft
  obtain ⟨body', rfl⟩ := hp.suffix_of_reaches hplace'.reaches
  have hbegins : opening ++ body' ++ closing <+: opening ++ (body' ++ (closing ++ place)) :=
    ⟨place, by simp only [List.append_assoc]⟩
  exact ⟨body', hbegins.isInfix.trans (hp.suffix_of_reaches hplace.reaches).isInfix⟩

/-- A comment that is left when its own eraser and some passes have gone over a text has a mark of which the eraser has
joined two characters. -/
theorem joinsMark_of_erased {later : List Pattern} {before body rest : Text}
    (hlater : ∀ q ∈ later, q.Steady ∧ q.Bars (· ∈ opening ++ closing)) (hopening : opening ≠ [])
    (hclosing : closing ≠ [])
    (h : Pattern.replaceAll later ((between opening closing).erasing.replace t) =
      before ++ opening ++ body ++ closing ++ rest) :
    (between opening closing).erasing.JoinsMark later opening before t ∨
      (between opening closing).erasing.JoinsMark later closing (before ++ opening ++ body) t := by
  rcases (between_erasing_erases hopening closing).exists_or_joinsMark hlater hopening hclosing h with
    ⟨place, -, hmiss, hbegins⟩ | hjoins
  · exact absurd (Option.map_eq_none_iff.mp hmiss) (between_ne_none_iff.mpr hbegins)
  · exact hjoins

/-! ## JavaScript -/

namespace JavaScript

/-- The eraser of block comments. -/
def blocks : Pattern := (between "/*".toList "*/".toList).erasing

def lineEnds : Pattern := (toLineEnd "//".toList).erasing

/-- What is left of a source without its comments: no line comment, and no block comment but those of which one mark has
been joined, as block comments that are gone stood between its two characters. Unless one is left, nothing changes any
more. -/
structure Stripping (t : Text) : Prop where
  line : ¬ "//".toList <:+: stripComments t
  block : ∀ before body rest, stripComments t = before ++ "/*".toList ++ body ++ "*/".toList ++ rest →
    blocks.JoinsMark [lineEnds] "/*".toList before t ∨
      blocks.JoinsMark [lineEnds] "*/".toList (before ++ "/*".toList ++ body) t
  again : stripComments (stripComments t) = stripComments t ↔
    ¬ HoldsComment "/*".toList "*/".toList (stripComments t)

/-- Block comments are erased with nothing but themselves. -/
theorem blocks_erases : blocks.Erases := between_erasing_erases (by decide) _

theorem lineEnds_lessens : lineEnds.Lessens := toLineEnd_erasing_lessens (by decide)

theorem foundIn_blocks_iff : blocks.FoundIn t ↔ HoldsComment "/*".toList "*/".toList t := by
  rw [blocks, Pattern.foundIn_erasing_iff, holdsComment_iff]

/-- The eraser of line comments is found in the texts that hold their mark. -/
theorem foundIn_lineEnds_iff : lineEnds.FoundIn t ↔ "//".toList <:+: t := by
  rw [lineEnds, Pattern.foundIn_erasing_iff, foundIn_toLineEnd_iff]

theorem not_infix_stripComments (t : Text) : ¬ "//".toList <:+: stripComments t :=
  not_infix_replace_toLineEnd (by decide) (by decide) _

/-- The eraser of line comments leaves the marks of block comments alone. -/
theorem lineEnds_keeps : lineEnds.Steady ∧ lineEnds.Bars (· ∈ "/*".toList ++ "*/".toList) :=
  ⟨lineEnds_lessens.toSteady, (toLineEnd_erasing_bars _).mono (by simp)⟩

/-- What is left of every source. -/
theorem stripping (t : Text) : Stripping t := by
  refine ⟨not_infix_stripComments t, fun before body rest h => ?_, ?_⟩
  · exact joinsMark_of_erased (List.forall_mem_singleton.mpr lineEnds_keeps) (by decide) (by decide) h
  have hlessen : ∀ p ∈ [blocks, lineEnds], p.Lessens := by
    simp only [List.forall_mem_cons]
    exact ⟨blocks_erases.lessens, lineEnds_lessens, List.forall_mem_nil _⟩
  have hpasses : ∀ u, stripComments u = Pattern.replaceAll [blocks, lineEnds] u := fun _ => rfl
  rw [hpasses (stripComments t), Pattern.replaceAll_eq_self_iff hlessen]
  simp only [List.forall_mem_cons, List.not_mem_nil, false_implies, implies_true, and_true, foundIn_blocks_iff,
    foundIn_lineEnds_iff, not_infix_stripComments, not_false_eq_true]

end JavaScript

/-! ## TypeScript -/

namespace TypeScript

open JavaScript (blocks lineEnds)

/-- The eraser of annotations before an equals sign. -/
def beforeEquals : Pattern := annotated '=' [' ', '=', ' ']

/-- The eraser of annotations before a semicolon. -/
def beforeSemicolon : Pattern := annotated ';' [';']

/-- What is left of a source without its comments and annotations: comments as in JavaScript, and an annotation exactly
where one that is gone stood right behind a colon and a type. Unless any of them is left, nothing changes any more. -/
structure Stripping (t : Text) : Prop where
  line : ¬ "//".toList <:+: stripCommentsAndTypes t
  block : ∀ before body rest, stripCommentsAndTypes t = before ++ "/*".toList ++ body ++ "*/".toList ++ rest →
    blocks.JoinsMark [lineEnds, beforeEquals, beforeSemicolon] "/*".toList before t ∨
      blocks.JoinsMark [lineEnds, beforeEquals, beforeSemicolon] "*/".toList (before ++ "/*".toList ++ body) t
  equals : HoldsAnnotation '=' (stripCommentsAndTypes t) ↔ HoldsChain '=' (JavaScript.stripComments t)
  semicolon : HoldsAnnotation ';' (stripCommentsAndTypes t) ↔ HoldsChain ';' (JavaScript.stripComments t)
  again : stripCommentsAndTypes (stripCommentsAndTypes t) = stripCommentsAndTypes t ↔
    ¬ HoldsComment "/*".toList "*/".toList (stripCommentsAndTypes t) ∧
      ¬ HoldsAnnotation '=' (stripCommentsAndTypes t) ∧ ¬ HoldsAnnotation ';' (stripCommentsAndTypes t)

theorem putsBack_equals : PutsBack '=' [' ', '=', ' '] :=
  ⟨by decide, by decide, ⟨[' '], [' '], List.forall_mem_singleton.mpr rfl, rfl⟩, by decide, by decide⟩

theorem putsBack_semicolon : PutsBack ';' [';'] :=
  ⟨by decide, by decide, ⟨[], [], List.forall_mem_nil _, rfl⟩, by decide, by decide⟩

/-- Taking out annotations before an equals sign makes a text lighter. -/
theorem beforeEquals_lessens : beforeEquals.Lessens := annotated_lessens putsBack_equals

theorem beforeSemicolon_lessens : beforeSemicolon.Lessens := annotated_lessens putsBack_semicolon

/-- Annotations before an equals sign are found in the texts that hold one. -/
theorem foundIn_beforeEquals_iff : beforeEquals.FoundIn t ↔ HoldsAnnotation '=' t :=
  (holdsAnnotation_iff putsBack_equals.free).symm

/-- Annotations before a semicolon are found in the texts that hold one. -/
theorem foundIn_beforeSemicolon_iff : beforeSemicolon.FoundIn t ↔ HoldsAnnotation ';' t :=
  (holdsAnnotation_iff putsBack_semicolon.free).symm

/-- The characters of comment marks stand in nothing that is put in for an annotation. -/
theorem annotated_bars_marks : beforeEquals.Bars (fun c => c = '/' ∨ c = '*') ∧
    beforeSemicolon.Bars (fun c => c = '/' ∨ c = '*') :=
  ⟨annotated_bars (by decide) (by simp), annotated_bars (by decide) (by simp)⟩

theorem not_infix_stripCommentsAndTypes (t : Text) : ¬ "//".toList <:+: stripCommentsAndTypes t := by
  intro h
  have hequals := beforeSemicolon_lessens.infix_of_infix_replace annotated_bars_marks.2 (by simp) h
  have hcomments := beforeEquals_lessens.infix_of_infix_replace annotated_bars_marks.1 (by simp) hequals
  exact JavaScript.not_infix_stripComments t hcomments

/-- An annotation before an equals sign is left exactly where one stood right behind a colon and a type. -/
theorem holdsAnnotation_equals_iff :
    HoldsAnnotation '=' (stripCommentsAndTypes t) ↔ HoldsChain '=' (JavaScript.stripComments t) :=
  (holdsAnnotation_replace_other_iff putsBack_semicolon (by decide) (by decide) (by decide)).trans
    (holdsAnnotation_replace_iff putsBack_equals)

/-- An annotation before a semicolon is left exactly where one stood right behind a colon and a type. -/
theorem holdsAnnotation_semicolon_iff :
    HoldsAnnotation ';' (stripCommentsAndTypes t) ↔ HoldsChain ';' (JavaScript.stripComments t) :=
  (holdsAnnotation_replace_iff putsBack_semicolon).trans
    (holdsChain_replace_other_iff putsBack_equals (by decide) (by decide) (by decide))

/-- What is left of every source. -/
theorem stripping (t : Text) : Stripping t := by
  refine ⟨not_infix_stripCommentsAndTypes t, fun before body rest h => ?_, holdsAnnotation_equals_iff,
    holdsAnnotation_semicolon_iff, ?_⟩
  · have hmarks : ∀ c, c ∈ "/*".toList ++ "*/".toList → c = '/' ∨ c = '*' := by simp
    have hlater : ∀ q ∈ [lineEnds, beforeEquals, beforeSemicolon],
        q.Steady ∧ q.Bars (· ∈ "/*".toList ++ "*/".toList) := by
      simp only [List.forall_mem_cons]
      exact ⟨JavaScript.lineEnds_keeps, ⟨beforeEquals_lessens.toSteady, annotated_bars_marks.1.mono hmarks⟩,
        ⟨beforeSemicolon_lessens.toSteady, annotated_bars_marks.2.mono hmarks⟩, List.forall_mem_nil _⟩
    exact joinsMark_of_erased hlater (by decide) (by decide) h
  have hlessen : ∀ p ∈ [blocks, lineEnds, beforeEquals, beforeSemicolon], p.Lessens := by
    simp only [List.forall_mem_cons]
    exact ⟨JavaScript.blocks_erases.lessens, JavaScript.lineEnds_lessens, beforeEquals_lessens,
      beforeSemicolon_lessens, List.forall_mem_nil _⟩
  have hpasses : ∀ u, stripCommentsAndTypes u =
      Pattern.replaceAll [blocks, lineEnds, beforeEquals, beforeSemicolon] u := fun _ => rfl
  rw [hpasses (stripCommentsAndTypes t), Pattern.replaceAll_eq_self_iff hlessen]
  simp only [List.forall_mem_cons, List.not_mem_nil, false_implies, implies_true, and_true,
    JavaScript.foundIn_blocks_iff, JavaScript.foundIn_lineEnds_iff, foundIn_beforeEquals_iff,
    foundIn_beforeSemicolon_iff, not_infix_stripCommentsAndTypes, not_false_eq_true, true_and]

end TypeScript

/-! ## Python -/

namespace Python

def doubles : Pattern := (between tripleDouble tripleDouble).erasing

def singles : Pattern := (between tripleSingle tripleSingle).erasing

def hashes : Pattern := (toLineEnd ['#']).erasing

/-- What is left of a source without its docstrings and comments: no comment, no docstring in single quotes, and none in
double quotes but those of which one mark has been joined, as docstrings in single quotes that are gone stood between
two of its quotes. Unless one is left, nothing changes any more. -/
structure Stripping (t : Text) : Prop where
  hash : ¬ ['#'] <:+: stripComments t
  single : ¬ HoldsComment tripleSingle tripleSingle (stripComments t)
  double : ∀ before body rest, stripComments t = before ++ tripleDouble ++ body ++ tripleDouble ++ rest →
    singles.JoinsMark [hashes] tripleDouble before (doubles.replace t) ∨
      singles.JoinsMark [hashes] tripleDouble (before ++ tripleDouble ++ body) (doubles.replace t)
  again : stripComments (stripComments t) = stripComments t ↔
    ¬ HoldsComment tripleDouble tripleDouble (stripComments t)

theorem ne_none_of_erased {p : Pattern} (hp : p.Steady) {inner : Text} (hne : inner ≠ []) (h : p.replace inner = []) :
    p none inner ≠ none := by
  intro hmiss
  obtain ⟨c, cs, rfl⟩ := List.exists_cons_of_ne_nil hne
  rw [hp.replace_of_miss hmiss] at h
  cases h

/-- Erasing docstrings joins no two of their quotes: before the second of them a docstring would have begun with the
first. -/
theorem not_joinsIn_quotes (quote : Char) (before t : Text) :
    ¬ (between [quote, quote, quote] [quote, quote, quote]).erasing.JoinsIn [quote, quote, quote] before t := by
  rintro ⟨front, a, b, back, hmark, inner, behind, -, hmiss, hne, herased, -⟩
  have hquote : ∀ {c : Char}, c ∈ front ++ [a, b] ++ back → c = quote := by
    rw [← hmark]
    simp
  rw [hquote (show a ∈ _ by simp)] at hmiss
  have hsteady := (between_erasing_erases (List.cons_ne_nil quote [quote, quote]) [quote, quote, quote]).toSteady
  have hhit := ne_none_of_erased hsteady hne herased
  rw [Pattern.erasing, ne_eq, Option.map_eq_none_iff] at hhit
  obtain ⟨body, rest, rfl⟩ := between_ne_none_iff.mp hhit
  have hbegins : ∃ body', [quote, quote, quote] ++ body' ++ [quote, quote, quote] <+:
      quote :: ([quote, quote, quote] ++ body ++ [quote, quote, quote] ++ rest ++ b :: behind) :=
    ⟨quote :: body, rest ++ b :: behind, by simp⟩
  exact between_ne_none_iff.mpr hbegins (Option.map_eq_none_iff.mp hmiss)

/-- Docstrings of one kind are never left by their own eraser. -/
theorem not_holdsComment_of_erased (quote : Char) (t : Text) :
    ¬ HoldsComment [quote, quote, quote] [quote, quote, quote]
      ((between [quote, quote, quote] [quote, quote, quote]).erasing.replace t) := by
  rintro ⟨body, before, rest, hwhole⟩
  have hleft : Pattern.replaceAll [] ((between [quote, quote, quote] [quote, quote, quote]).erasing.replace t) =
      before ++ [quote, quote, quote] ++ body ++ [quote, quote, quote] ++ rest := by
    simp only [← List.append_assoc] at hwhole
    exact hwhole.symm
  rcases joinsMark_of_erased (List.forall_mem_nil _) (List.cons_ne_nil _ _) (List.cons_ne_nil _ _) hleft with
    ⟨front, -, hjoins⟩ | ⟨front, -, hjoins⟩
  · exact not_joinsIn_quotes quote _ t hjoins
  · exact not_joinsIn_quotes quote _ t hjoins

theorem doubles_erases : doubles.Erases := between_erasing_erases (by decide) _

theorem singles_erases : singles.Erases := between_erasing_erases (by decide) _

theorem hashes_lessens : hashes.Lessens := toLineEnd_erasing_lessens (by decide)

theorem HoldsComment.of_stripComments {mark : Text} (hmark : mark ≠ []) (hfeed : ∀ c ∈ mark, c ≠ '\n')
    (h : HoldsComment mark mark (stripComments t)) : HoldsComment mark mark (singles.replace (doubles.replace t)) :=
  h.of_replace hashes_lessens.toSteady (toLineEnd_erasing_bars _) hmark hmark hfeed hfeed

/-- What is left of every source. -/
theorem stripping (t : Text) : Stripping t := by
  have hhash : ∀ u, ¬ ['#'] <:+: stripComments u := fun u =>
    not_infix_replace_toLineEnd (by decide) (by decide) _
  have hsingle : ¬ HoldsComment tripleSingle tripleSingle (stripComments t) := fun h =>
    not_holdsComment_of_erased '\'' (doubles.replace t) (HoldsComment.of_stripComments (by decide) (by simp) h)
  refine ⟨hhash t, hsingle, fun before body rest h => ?_, ?_⟩
  · have hmarks : ∀ c, c ∈ tripleDouble ++ tripleDouble → c ≠ '\n' := by simp [tripleDouble]
    have hkeeps : hashes.Steady ∧ hashes.Bars (· ∈ tripleDouble ++ tripleDouble) :=
      ⟨hashes_lessens.toSteady, (toLineEnd_erasing_bars _).mono hmarks⟩
    rcases singles_erases.exists_or_joinsMark (List.forall_mem_singleton.mpr hkeeps) (by decide) (by decide) h with
      ⟨place, hplace, -, body', hbegins⟩ | hjoins
    · exact absurd ⟨body', hbegins.isInfix.trans hplace.isInfix⟩ (not_holdsComment_of_erased '"' t)
    · exact hjoins
  have hlessen : ∀ p ∈ [doubles, singles, hashes], p.Lessens := by
    simp only [List.forall_mem_cons]
    exact ⟨doubles_erases.lessens, singles_erases.lessens, hashes_lessens, List.forall_mem_nil _⟩
  have hpasses : ∀ u, stripComments u = Pattern.replaceAll [doubles, singles, hashes] u := fun _ => rfl
  rw [hpasses (stripComments t), Pattern.replaceAll_eq_self_iff hlessen]
  simp only [List.forall_mem_cons, List.not_mem_nil, false_implies, implies_true, and_true, doubles, singles, hashes,
    Pattern.foundIn_erasing_iff, ← holdsComment_iff, foundIn_toLineEnd_iff, hsingle, hhash, not_false_eq_true]

end Python

/-- What is left of sources in each language when their comments and annotations are taken out, and when this changes
nothing any more. -/
theorem stripped_again (t : Text) : JavaScript.Stripping t ∧ TypeScript.Stripping t ∧ Python.Stripping t :=
  ⟨JavaScript.stripping t, TypeScript.stripping t, Python.stripping t⟩

/-- A comment, an annotation and a docstring that come about when others are taken out, so that taking out once more
changes the text in each language. -/
theorem stripped_again_changes :
    let code := "//**/* x */".toList
    let typed := "x: a: b = 1".toList
    let script := "\"''''''\"\"y\"\"\"".toList
    JavaScript.stripComments (JavaScript.stripComments code) ≠ JavaScript.stripComments code ∧
      TypeScript.stripCommentsAndTypes (TypeScript.stripCommentsAndTypes typed) ≠
        TypeScript.stripCommentsAndTypes typed ∧
      Python.stripComments (Python.stripComments script) ≠ Python.stripComments script := by
  decide +kernel

end Wording.Tokens
