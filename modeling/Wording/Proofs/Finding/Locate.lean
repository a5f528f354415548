import Wording.Finding
import Wording.Proofs.Text.Search

/-! # Which findings a search for a token makes

A finding is made for a token that holds a term and for each line that holds the token, at the first place of the token
in the folded line, and no other finding is made. The terms that are reported all come from the settings and are held by
the token.

`mem_findings_iff` is the inversion of the search: it says of every finding which term, which line and which place it is
for, with both directions, and every later statement on findings begins with it. Folding is the only thing that letter
case decides; it is left as it is here, and looked into where a statement is about one of the two.
-/

set_option autoImplicit false

namespace Wording

theorem Term.text_ne_nil (term : Term) : term.text ≠ [] := by
  intro h
  have hblank := term.notBlank
  rw [h] at hblank
  cases hblank

theorem Term.ne_nil_of_text_isInfix {term : Term} {token : Text} (h : term.text <:+: token) :
    token ≠ [] := by
  rintro rfl
  exact term.text_ne_nil (List.infix_nil.mp h)

namespace Settings

variable {s : Settings} {kind : TokenKind} {token : Text} {term : Term} {lines : List Text}

theorem fold_of_caseSensitive (hs : s.caseSensitive = true) (t : Text) : s.matcher.fold t = t :=
  if_pos hs

theorem fold_of_not_caseSensitive (hs : s.caseSensitive = false) (t : Text) :
    s.matcher.fold t = Text.lower t := by
  rw [Matcher.fold, matcher, hs]
  rfl

/-- The matcher of settings, which has the folded texts of its terms ready, finds the first term that a token holds. -/
theorem firstTerm?_matcher (s : Settings) (token : Text) :
    s.matcher.firstTerm? token = s.terms.find? (s.matcher.holds token) := by
  rw [Matcher.firstTerm?, matcher, List.find?_map, Option.map_map]
  exact Option.map_id'

theorem holds_of_firstTerm? (h : s.matcher.firstTerm? token = some term) : s.matcher.holds token term = true := by
  rw [firstTerm?_matcher] at h
  exact List.find?_some h

/-- The matcher of settings finds all terms that a token holds. -/
theorem allTerms_matcher (s : Settings) (token : Text) :
    s.matcher.allTerms token = s.terms.filter (s.matcher.holds token) := by
  rw [Matcher.allTerms, matcher, List.filter_map, List.map_map]
  exact List.map_id _

/-- A token holds a term when the folded term is a piece of the folded token. -/
theorem holds_iff : s.matcher.holds token term = true ↔ s.matcher.fold term.text <:+: s.matcher.fold token :=
  Text.contains_iff

/-- With letter case minded, a token holds a term when the term is a piece of it. -/
theorem holds_iff_of_caseSensitive (hs : s.caseSensitive = true) :
    s.matcher.holds token term = true ↔ term.text <:+: token := by
  rw [holds_iff, fold_of_caseSensitive hs, fold_of_caseSensitive hs]

theorem mem_terms_of_mem_reportedTerms (h : term ∈ s.matcher.reportedTerms kind token) :
    term ∈ s.terms ∧ s.matcher.holds token term = true := by
  have hall : term ∈ s.matcher.allTerms token → term ∈ s.terms ∧ s.matcher.holds token term = true := by
    rw [allTerms_matcher]
    exact List.mem_filter.mp
  cases kind with
  | identifier =>
    have hfirst : s.matcher.firstTerm? token = some term := Option.mem_toList.mp h
    rw [firstTerm?_matcher] at hfirst
    exact ⟨List.mem_of_find?_eq_some hfirst, List.find?_some hfirst⟩
  | string => exact hall h
  | comment => exact hall h

/-- Strings and comments report all terms of the settings that they hold. -/
theorem mem_reportedTerms_iff (hkind : kind ≠ .identifier) :
    term ∈ s.matcher.reportedTerms kind token ↔ term ∈ s.terms ∧ s.matcher.holds token term = true := by
  have hall : term ∈ s.matcher.allTerms token ↔ term ∈ s.terms ∧ s.matcher.holds token term = true := by
    rw [allTerms_matcher]
    exact List.mem_filter
  cases kind with
  | identifier => exact absurd rfl hkind
  | string => exact hall
  | comment => exact hall

theorem exists_mem_reportedTerms (hterm : term ∈ s.terms) (hholds : s.matcher.holds token term = true) :
    ∃ reported, reported ∈ s.matcher.reportedTerms kind token := by
  by_cases hkind : kind = .identifier
  · have hsome : (s.matcher.firstTerm? token).isSome := by
      rw [firstTerm?_matcher]
      exact List.find?_isSome.mpr ⟨term, hterm, hholds⟩
    obtain ⟨reported, h⟩ := Option.isSome_iff_exists.mp hsome
    rw [hkind]
    exact ⟨reported, Option.mem_toList.mpr h⟩
  · exact ⟨term, (mem_reportedTerms_iff hkind).mpr ⟨hterm, hholds⟩⟩

/-- Where a finding points to in some lines: at a line with a place counted from zero, at the first
column of that line at which its content stands, both as the settings compare texts. -/
structure PointsTo (s : Settings) (lines : List Text) (f : Finding) (place : Nat) (line : Text)
    (column : Nat) : Prop where
  line_eq : f.line = place + 1
  column_eq : f.column = column
  line_at : lines[place]? = some line
  context_eq : f.context = Text.trim line
  first : Text.FirstAt (s.matcher.fold f.content) (s.matcher.fold line) column

/-- The findings from a line number on are those of the lines that hold the token. -/
theorem mem_locateFrom_iff {number : Nat} {f : Finding} :
    f ∈ s.matcher.locateFrom kind token term number lines ↔
      ∃ (place : Nat) (line : Text) (column : Nat), lines[place]? = some line ∧
        Text.FirstAt (s.matcher.fold token) (s.matcher.fold line) column ∧
        f = ⟨kind, ((number + place : Nat) : Int), column, token, Text.trim line, term⟩ := by
  induction lines generalizing number with
  | nil =>
    rw [Matcher.locateFrom]
    simp only [List.not_mem_nil, List.getElem?_nil, reduceCtorEq, false_and, exists_false]
  | cons line rest ih =>
    have hlater : f ∈ s.matcher.locateFrom kind token term (number + 1) rest ↔
        ∃ (place : Nat) (found : Text) (column : Nat), (line :: rest)[place + 1]? = some found ∧
          Text.FirstAt (s.matcher.fold token) (s.matcher.fold found) column ∧
          f = ⟨kind, ((number + (place + 1) : Nat) : Int), column, token, Text.trim found, term⟩ := by
      rw [ih]
      simp only [List.getElem?_cons_succ, Nat.add_assoc, Nat.add_comm 1]
    rw [Matcher.locateFrom]
    constructor
    · intro h
      split at h
      next column hcolumn =>
        rcases List.mem_cons.mp h with rfl | h
        · exact ⟨0, line, column, rfl, Text.indexOf?_eq_some_iff.mp hcolumn, rfl⟩
        · obtain ⟨place, found⟩ := hlater.mp h
          exact ⟨place + 1, found⟩
      next =>
        obtain ⟨place, found⟩ := hlater.mp h
        exact ⟨place + 1, found⟩
    · rintro ⟨place, found, column, hat, hfirst, rfl⟩
      cases place with
      | zero =>
        obtain rfl : line = found := Option.some.inj hat
        rw [Text.indexOf?_eq_some_iff.mpr hfirst]
        exact List.mem_cons_self
      | succ place =>
        have h := hlater.mpr ⟨place, found, column, hat, hfirst, rfl⟩
        split
        · exact List.mem_cons_of_mem _ h
        · exact h

/-- The findings of a token with a term: one at each line that holds the token. -/
theorem mem_locate_iff {f : Finding} :
    f ∈ s.matcher.locate kind token term lines ↔
      (token ≠ [] ∧ s.matcher.holds token term = true) ∧ (f.kind = kind ∧ f.content = token ∧ f.term = term) ∧
        ∃ place line column, s.PointsTo lines f place line column := by
  have hif : s.matcher.locate kind token term lines =
      if token ≠ [] ∧ s.matcher.holds token term = true then s.matcher.locateFrom kind token term 1 lines else [] := by
    simp only [Matcher.locate, Bool.and_eq_true, decide_eq_true_eq]
  rw [hif]
  split
  next hheld =>
    rw [mem_locateFrom_iff]
    constructor
    · rintro ⟨place, line, column, hat, hfirst, rfl⟩
      refine ⟨hheld, ⟨rfl, rfl, rfl⟩, place, line, column, ?_, rfl, hat, rfl, hfirst⟩
      exact congrArg Int.ofNat (Nat.add_comm 1 place)
    · rintro ⟨-, ⟨rfl, rfl, rfl⟩, place, line, column, h⟩
      refine ⟨place, line, column, h.line_at, h.first, ?_⟩
      obtain ⟨fkind, fline, fcolumn, fcontent, fcontext, fterm⟩ := f
      have hline : fline = ((1 + place : Nat) : Int) := by
        rw [Nat.add_comm 1 place]
        exact h.line_eq
      have hcolumn : fcolumn = column := h.column_eq
      have hcontext : fcontext = Text.trim line := h.context_eq
      rw [hline, hcolumn, hcontext]
  next hheld =>
    constructor
    · intro h
      cases h
    · rintro ⟨h, -⟩
      exact absurd h hheld

/-- The findings of some tokens of a kind: one for each token, each term that it reports and each line that
holds it. -/
theorem mem_findings_iff {tokens : List Text} {f : Finding} :
    f ∈ s.matcher.findings kind tokens lines ↔
      (f.kind = kind ∧ f.content ∈ tokens ∧ f.content ≠ []) ∧
        f.term ∈ s.matcher.reportedTerms kind f.content ∧
        ∃ place line column, s.PointsTo lines f place line column := by
  simp only [Matcher.findings, List.mem_flatMap, mem_locate_iff]
  constructor
  · rintro ⟨token, htoken, term, hterm, ⟨hne, -⟩, ⟨hkind, rfl, rfl⟩, hpoints⟩
    exact ⟨⟨hkind, htoken, hne⟩, hterm, hpoints⟩
  · rintro ⟨⟨hkind, htoken, hne⟩, hterm, hpoints⟩
    exact ⟨f.content, htoken, f.term, hterm, ⟨hne, (mem_terms_of_mem_reportedTerms hterm).2⟩,
      ⟨hkind, rfl, rfl⟩, hpoints⟩

/-- At every line that holds the token there is a place to point to. -/
theorem exists_pointsTo_iff {place : Nat} {line : Text} (hat : lines[place]? = some line) :
    (∃ f column, (f.kind = kind ∧ f.content = token ∧ f.term = term) ∧
      s.PointsTo lines f place line column) ↔ s.matcher.fold token <:+: s.matcher.fold line := by
  rw [← Text.exists_firstAt_iff]
  constructor
  · rintro ⟨f, column, ⟨-, rfl, -⟩, h⟩
    exact ⟨column, h.first⟩
  · rintro ⟨column, hfirst⟩
    exact ⟨⟨kind, place + 1, column, token, Text.trim line, term⟩, column, ⟨rfl, rfl, rfl⟩,
      rfl, rfl, hat, rfl, hfirst⟩

/-- A token of some tokens is reported with a term at a line exactly when it reports that term and the line
holds it. -/
theorem exists_finding_at_iff {tokens : List Text} {place : Nat} {line : Text}
    (hat : lines[place]? = some line) :
    (∃ f ∈ s.matcher.findings kind tokens lines, f.line = place + 1 ∧ f.content = token ∧ f.term = term) ↔
      (token ∈ tokens ∧ token ≠ []) ∧ term ∈ s.matcher.reportedTerms kind token ∧
        s.matcher.fold token <:+: s.matcher.fold line := by
  constructor
  · rintro ⟨f, hf, hline, rfl, rfl⟩
    obtain ⟨⟨-, htoken⟩, hterm, other, found, column, hpoints⟩ := mem_findings_iff.mp hf
    obtain rfl : other = place := by
      have hother := hpoints.line_eq
      omega
    obtain rfl : found = line := Option.some.inj (hpoints.line_at.symm.trans hat)
    exact ⟨htoken, hterm, Text.exists_firstAt_iff.mp ⟨column, hpoints.first⟩⟩
  · rintro ⟨htoken, hterm, hstands⟩
    have hpoint : ∃ f column, (f.kind = kind ∧ f.content = token ∧ f.term = term) ∧
        s.PointsTo lines f place line column := (exists_pointsTo_iff hat).mpr hstands
    obtain ⟨f, column, ⟨hkind, rfl, rfl⟩, hpoints⟩ := hpoint
    have hf := mem_findings_iff.mpr ⟨⟨hkind, htoken⟩, hterm, place, line, column, hpoints⟩
    exact ⟨f, hf, hpoints.line_eq, rfl, rfl⟩

end Settings

end Wording
