import Wording.Tokens.Python
import Wording.Proofs.Tokens.Comment
import Wording.Proofs.Tokens.Literal
import Wording.Proofs.Tokens.Name

/-! # The tokens of Python as pieces of the source

Taking the delimiters off a literal leaves a piece of it, because a literal ends with a quote, so strings and comments
are pieces of the text as it is. An identifier is what remains of a piece of the text from which docstrings are erased.
Comments are erased to the line end and put nothing together.

The shapes in which names are found are more than those of the other languages, and the list of an import is one of
them: it is taken up to the end of the line, and its parts between commas are the names. None of the shapes answers a
line feed, which is what the lemmas on them come to (`namePatterns_yield`).
-/

set_option autoImplicit false

namespace Wording.Tokens.Python

variable {t u name : Text}

/-! ## Identifiers -/

theorem Yields.ne_lineFeed {p : Pattern} {a : Alphabet} (hp : p.Yields (a.isName · = true))
    (hfirst : ∀ c, a.first c = true → a.later c = true) (hfeed : a.later '\n' = false) :
    p.Yields fun piece => ∀ c ∈ piece, c ≠ '\n' := by
  refine hp.mono fun piece hname c hc => ?_
  rintro rfl
  have hlater := Alphabet.later_of_mem_name hfirst hname hc
  rw [hfeed] at hlater
  cases hlater

theorem pathAlphabet_later_of_first (c : Char) (h : pathAlphabet.first c = true) :
    pathAlphabet.later c = true := by
  simp only [pathAlphabet, Bool.or_eq_true] at h ⊢
  exact Or.inl (plainAlphabet_later_of_first h)

theorem listAlphabet_later_of_first (c : Char) (h : listAlphabet.first c = true) :
    listAlphabet.later c = true := by
  simp only [listAlphabet, Bool.or_eq_true] at h ⊢
  exact Or.inl (Or.inl (Or.inl (plainAlphabet_later_of_first h)))

theorem alias?_eq_some {hit : Hit} (h : alias? t = some hit) :
    plainAlphabet.isName hit.piece = true ∧ hit.piece <:+: t := by
  simp only [alias?, Option.bind_eq_bind, Option.bind_eq_some_iff, pure, Option.some.injEq] at h
  obtain ⟨gap, hgap, behind, has, blank, hblank, ⟨found, rest⟩, hname, rfl⟩ := h
  have hsuffix := (suffix_of_skipSomeBlanks? hblank).trans
    ((suffix_of_dropBeginning? has).trans (suffix_of_skipSomeBlanks? hgap))
  exact ⟨(Alphabet.takeName?_eq_some hname).1, Alphabet.infix_of_takeName? hname hsuffix⟩

/-- The last place on a line where something answers is a place of the text. -/
theorem exists_of_lastOnLine {ask : Text → Option Hit} {hit : Hit}
    (h : lastOnLine ask t = some hit) : ∃ place, place <:+ t ∧ ask place = some hit := by
  induction t with
  | nil => cases h
  | cons c cs ih =>
    rw [lastOnLine] at h
    split at h
    · cases h
    · rcases Option.or_eq_some_iff.mp h with h | ⟨-, h⟩
      · obtain ⟨place, hplace, hask⟩ := ih h
        exact ⟨place, hplace.trans (List.suffix_cons c cs), hask⟩
      · exact ⟨cs, List.suffix_cons c cs, h⟩

/-- The last place behind white space where something answers is a place of the text. -/
theorem exists_of_lastBehindBlanks {ask : Text → Option Hit} {hit : Hit}
    (h : lastBehindBlanks ask t = some hit) : ∃ place, place <:+ t ∧ ask place = some hit := by
  induction t with
  | nil => cases h
  | cons c cs ih =>
    rw [lastBehindBlanks] at h
    split at h
    · rcases Option.or_eq_some_iff.mp h with h | ⟨-, h⟩
      · obtain ⟨place, hplace, hask⟩ := ih h
        exact ⟨place, hplace.trans (List.suffix_cons c cs), hask⟩
      · exact ⟨cs, List.suffix_cons c cs, h⟩
    · cases h

/-- Between `for` and `in` stands a name. -/
theorem loopVariable_yields : loopVariable.Yields (plainAlphabet.isName · = true) := by
  intro before t hit h
  simp only [loopVariable, Option.bind_eq_bind, Option.bind_eq_some_iff, pure, Option.some.injEq] at h
  obtain ⟨behind, hfor, gap, hgap, ⟨found, more⟩, hname, -, -, -, -, rfl⟩ := h
  have hsuffix := (suffix_of_skipSomeBlanks? hgap).trans (suffix_of_dropBeginning? hfor)
  exact ⟨(Alphabet.takeName?_eq_some hname).1, Alphabet.infix_of_takeName? hname hsuffix⟩

theorem caughtException_yields : caughtException.Yields (plainAlphabet.isName · = true) := by
  intro before t hit h
  simp only [caughtException, Option.bind_eq_bind, Option.bind_eq_some_iff] at h
  obtain ⟨behind, hexcept, gap, hgap, ⟨kind, more⟩, hkind, halias⟩ := h
  obtain ⟨hname, hpiece⟩ := alias?_eq_some halias
  have hmore : more <:+ gap := by
    cases gap with
    | nil => cases hkind
    | cons c cs =>
      rw [takeRun?] at hkind
      split at hkind
      · cases hkind
        exact (List.dropWhile_suffix _).trans (List.suffix_cons c cs)
      · cases hkind
  have hsuffix := hmore.trans
    ((suffix_of_skipSomeBlanks? hgap).trans (suffix_of_dropBeginning? hexcept))
  exact ⟨hname, hpiece.trans hsuffix.isInfix⟩

theorem boundContext_yields : boundContext.Yields (plainAlphabet.isName · = true) := by
  intro before t hit h
  simp only [boundContext, Option.bind_eq_bind, Option.bind_eq_some_iff] at h
  obtain ⟨behind, hwith, hlast⟩ := h
  obtain ⟨line, hline, hlast⟩ := exists_of_lastBehindBlanks hlast
  obtain ⟨place, hplace, halias⟩ := exists_of_lastOnLine hlast
  obtain ⟨hname, hpiece⟩ := alias?_eq_some halias
  have hsuffix := hplace.trans (hline.trans (suffix_of_dropBeginning? hwith))
  exact ⟨hname, hpiece.trans hsuffix.isInfix⟩

/-- From a module a list of names is imported. -/
theorem importedList_yields : importedList.Yields (listAlphabet.isName · = true) := by
  intro before t hit h
  simp only [importedList, Option.bind_eq_bind, Option.bind_eq_some_iff, pure, Option.some.injEq] at h
  obtain ⟨behind, hfrom, gap, hgap, ⟨path, more⟩, hpath, gap', hgap', behind', himport, gap'', hgap'',
    ⟨names, rest⟩, hnames, rfl⟩ := h
  have hmore : more <:+ gap := ⟨path, (Alphabet.takeName?_eq_some hpath).2.symm⟩
  have hfront := hmore.trans ((suffix_of_skipSomeBlanks? hgap).trans (suffix_of_dropBeginning? hfrom))
  have hsuffix := (suffix_of_skipSomeBlanks? hgap'').trans
    ((suffix_of_dropBeginning? himport).trans ((suffix_of_skipSomeBlanks? hgap').trans hfront))
  exact ⟨(Alphabet.takeName?_eq_some hnames).1, Alphabet.infix_of_takeName? hnames hsuffix⟩

theorem namePatterns_yield : ∀ p ∈ namePatterns, p.Yields fun piece => ∀ c ∈ piece, c ≠ '\n' := by
  have plain : ∀ {p : Pattern}, p.Yields (plainAlphabet.isName · = true) →
      p.Yields fun piece => ∀ c ∈ piece, c ≠ '\n' := fun hp =>
    Yields.ne_lineFeed hp (fun _ => plainAlphabet_later_of_first) (by decide)
  simp only [namePatterns, List.forall_mem_cons]
  exact ⟨plain (plainAlphabet.afterWord_yields _), plain (plainAlphabet.beforeMark_yields '='),
    plain loopVariable_yields, plain caughtException_yields, plain boundContext_yields,
    Yields.ne_lineFeed (pathAlphabet.afterWord_yields _) pathAlphabet_later_of_first (by decide),
    Yields.ne_lineFeed importedList_yields listAlphabet_later_of_first (by decide),
    plain plainAlphabet.afterPoint_yields, plain (plainAlphabet.beforeMark_yields '('),
    List.forall_mem_nil _⟩

/-- The text without docstrings in double quotes and then without those in single quotes. -/
def eraseBlocks (t : Text) : Text :=
  (between tripleSingle tripleSingle).erasing.replace
    ((between tripleDouble tripleDouble).erasing.replace t)

/-- Pieces without a line feed of the text without comments are pieces of the text without docstrings. -/
theorem infix_eraseBlocks (hu : ∀ c ∈ u, c ≠ '\n') (h : u <:+: stripComments t) : u <:+: eraseBlocks t :=
  (toLineEnd_erasing_steady (by decide)).infix_of_infix_replace (toLineEnd_erasing_bars _) hu h

theorem ne_lineFeed_of_mem_identifiers (h : name ∈ (tokens t).identifiers) :
    name ≠ [] ∧ '\n' ∉ name := by
  obtain ⟨hne, hfeed, -⟩ := infix_of_mem_collectNames namePatterns_yield h
  exact ⟨hne, fun hmem => hfeed _ hmem rfl⟩

/-- An identifier of a source remains of the source with its docstrings erased. -/
theorem remains_of_mem_identifiers (h : name ∈ (tokens t).identifiers) : Remains eraseBlocks t name := by
  obtain ⟨hne, hfeed, hpiece⟩ := infix_of_mem_collectNames namePatterns_yield h
  have double : (between tripleDouble tripleDouble).erasing.Erases :=
    between_erasing_erases (by decide) tripleDouble
  have single : (between tripleSingle tripleSingle).erasing.Erases :=
    between_erasing_erases (by decide) tripleSingle
  exact (remains_of_infix_replace single hne (infix_eraseBlocks hfeed hpiece)).of_replace double hne

/-! ## Strings and comments -/

theorem suffix_of_dropQuote? {rest : Text} (h : dropQuote? t = some rest) : rest <:+ t := by
  unfold dropQuote? at h
  split at h
  · cases h
    exact ⟨['"', '"', '"'], rfl⟩
  · cases h
    exact ⟨['\'', '\'', '\''], rfl⟩
  · cases h
    exact ⟨['"'], rfl⟩
  · cases h
    exact ⟨['\''], rfl⟩
  · cases h

theorem stripOpening_isSuffix (t : Text) : stripOpening t <:+ t := by
  unfold stripOpening
  cases h : dropQuote? (t.dropWhile isLiteralLetter) with
  | none => exact List.suffix_refl t
  | some rest => exact (suffix_of_dropQuote? h).trans (List.dropWhile_suffix _)

/-- Taking off the closing quote leaves a beginning of a text that does not end with a line feed. -/
theorem stripClosing_isPrefix (h : t.getLast? ≠ some '\n') : stripClosing t <+: t := by
  unfold stripClosing
  split
  next r hr =>
    have hlast : t.reverse.head? = some '\n' := by rw [hr, List.head?_cons]
    rw [List.head?_reverse] at hlast
    exact absurd hlast h
  next =>
    have hsuffix : (dropQuote? t.reverse).getD t.reverse <:+ t.reverse := by
      cases hquote : dropQuote? t.reverse with
      | none => exact List.suffix_refl _
      | some rest => exact suffix_of_dropQuote? hquote
    rw [← List.reverse_suffix, List.reverse_reverse]
    exact hsuffix

/-- Without its delimiters, a text that does not end with a line feed is a piece of itself. -/
theorem stripDelimiters_isInfix (h : t.getLast? ≠ some '\n') : stripDelimiters t <:+: t := by
  have hopening := stripOpening_isSuffix t
  have hlast : (stripOpening t).getLast? ≠ some '\n' := by
    obtain ⟨front, hfront⟩ := hopening
    intro hfeed
    rw [← hfront, List.getLast?_append, hfeed, Option.some_or] at h
    exact h rfl
  exact (stripClosing_isPrefix hlast).isInfix.trans hopening.isInfix

/-- A docstring is a piece of the text and ends with the last character of its mark. -/
theorem docstring_yields {mark : Text} {quote : Char} (hmark : mark.getLast? = some quote) :
    (docstring mark).Yields fun piece => piece.getLast? = some quote := by
  intro before t hit h
  obtain ⟨found, hfound, rfl⟩ := Option.map_eq_some_iff.mp h
  refine ⟨?_, ?_⟩
  · show (mark ++ found.piece ++ mark).getLast? = some quote
    rw [List.getLast?_append, hmark, Option.some_or]
  · rw [eq_append_of_between hfound]
    exact (List.prefix_append _ _).isInfix

theorem literal_yields (letters : Text) (quote : Char) :
    (literal letters quote).Yields fun piece => piece.getLast? = some quote := by
  intro before t hit h
  simp only [literal, Option.bind_eq_bind, Option.bind_eq_some_iff, Text.dropBeginning?_eq_some_iff,
    pure, Option.some.injEq] at h
  obtain ⟨behind, rfl, found, hfound, rfl⟩ := h
  refine ⟨?_, ?_⟩
  · show (letters ++ quote :: found.piece ++ [quote]).getLast? = some quote
    rw [List.getLast?_append, List.getLast?_singleton, Option.some_or]
  · rw [eq_append_of_quoted hfound]
    refine ⟨[], found.rest, ?_⟩
    simp only [List.nil_append, List.append_assoc, List.cons_append]

/-- No literal ends with a line feed. -/
theorem literalPatterns_yield :
    ∀ p ∈ literalPatterns, p.Yields fun piece => piece.getLast? ≠ some '\n' := by
  have ended : ∀ {p : Pattern} {quote : Char}, quote ≠ '\n' →
      p.Yields (fun piece => piece.getLast? = some quote) →
      p.Yields fun piece => piece.getLast? ≠ some '\n' := fun hquote hp =>
    hp.mono fun _ hlast hfeed => hquote (Option.some.inj (hlast.symm.trans hfeed))
  have double : '"' ≠ '\n' := by decide
  have single : '\'' ≠ '\n' := by decide
  simp only [literalPatterns, List.forall_mem_cons]
  exact ⟨ended double (docstring_yields rfl), ended single (docstring_yields rfl),
    ended double (literal_yields _ _), ended single (literal_yields _ _),
    ended double (literal_yields _ _), ended single (literal_yields _ _),
    ended double (literal_yields _ _), ended single (literal_yields _ _), List.forall_mem_nil _⟩

theorem infix_of_mem_strings {body : Text} (h : body ∈ strings t) : body <:+: t := by
  obtain ⟨p, hp, hbody⟩ := List.mem_flatMap.mp h
  obtain ⟨piece, hpiece, rfl⟩ := List.mem_map.mp hbody
  obtain ⟨hlast, hinfix⟩ := (literalPatterns_yield p hp).of_mem_pieces hpiece
  exact (stripDelimiters_isInfix hlast).trans hinfix

theorem infix_of_mem_comments {comment : Text} (h : comment ∈ comments t) : comment <:+: t := by
  rcases List.mem_append.mp h with h | h
  · rcases List.mem_append.mp h with h | h
    · exact infix_of_mem_lineComments h
    · exact infix_of_mem_blockComments h
  · exact infix_of_mem_blockComments h

end Wording.Tokens.Python
