import Wording.Settings.Builtin
import Wording.Proofs.Scan.Content
import Wording.Proofs.Tokens.Words

/-! # Which lines of a plain text are reported

A text of no known language is searched word by word, and a line is reported with a term of the settings exactly when
the line holds the term and the term has no white space, whether letter case matters or not.

A word that holds a term is a piece of a line without white space around it, so the question is whether a piece of the
line without white space lies in a word of it, which it does (`exists_word_holds_iff`). Without letter case this is
asked of small forms; white space neither comes nor goes when a text is made small, so the words of the small form are
the small forms of the words.
-/

set_option autoImplicit false

namespace Wording

namespace Settings

open Text (hasBlank)

variable {s : Settings} {content line : Text} {term : Term} {place : Nat}

/-- The form in which texts are compared has white space exactly where the text has. -/
theorem hasBlank_fold (s : Settings) (t : Text) : hasBlank (s.matcher.fold t) = hasBlank t := by
  unfold Matcher.fold Text.folded
  split
  · rfl
  · exact Text.hasBlank_lower t

/-- The form in which texts are compared has something in it if the text has. -/
theorem fold_ne_nil (s : Settings) {t : Text} (h : t ≠ []) : s.matcher.fold t ≠ [] := by
  unfold Matcher.fold Text.folded
  split
  · exact h
  · exact Text.lower_ne_nil h

/-- The words of a text as it is compared are its words as they are compared. -/
theorem fullWords_fold (s : Settings) (t : Text) :
    Tokens.fullWords (s.matcher.fold t) = (Tokens.fullWords t).map s.matcher.fold := by
  unfold Matcher.fold Text.folded
  split
  · exact (List.map_id' _).symm
  · exact Tokens.fullWords_lower t

/-- A line that is compared holds a term without white space exactly when one of the words of the line does. -/
theorem exists_word_holds_iff :
    (∃ word ∈ Tokens.fullWords line, s.matcher.fold term.text <:+: s.matcher.fold word) ↔
      hasBlank term.text = false ∧ s.matcher.fold term.text <:+: s.matcher.fold line := by
  have hpieces := Tokens.exists_fullWord_iff (t := s.matcher.fold line) (s.fold_ne_nil term.text_ne_nil)
  rw [hasBlank_fold, fullWords_fold] at hpieces
  rw [and_comm, ← hpieces]
  constructor
  · rintro ⟨word, hword, hheld⟩
    exact ⟨s.matcher.fold word, List.mem_map_of_mem hword, hheld⟩
  · rintro ⟨folded, hfolded, hheld⟩
    obtain ⟨word, hword, rfl⟩ := List.mem_map.mp hfolded
    exact ⟨word, hword, hheld⟩

theorem fold_word_isInfix {word : Text} (h : word ∈ Tokens.fullWords line) :
    s.matcher.fold word <:+: s.matcher.fold line := by
  have hne := (Tokens.ne_nil_and_not_hasBlank_of_mem_fullWords h).1
  have hmem : s.matcher.fold word ∈ Tokens.fullWords (s.matcher.fold line) := by
    rw [fullWords_fold]
    exact List.mem_map_of_mem h
  exact ((Tokens.exists_fullWord_iff (s.fold_ne_nil hne)).mp ⟨_, hmem, List.infix_rfl⟩).1

/-- The words of a text are reported at a line with a term of the settings exactly when the line holds the
term and the term has no white space. -/
theorem exists_finding_of_words_iff (hat : (Text.lines content)[place]? = some line)
    (hterm : term ∈ s.terms) :
    (∃ f ∈ s.matcher.findings .string (Tokens.splitWords content) (Text.lines content),
        f.line = place + 1 ∧ f.term = term) ↔
      hasBlank term.text = false ∧ s.matcher.fold term.text <:+: s.matcher.fold line := by
  constructor
  · rintro ⟨f, hf, hline, rfl⟩
    obtain ⟨⟨hword, hne⟩, hreported, hstands⟩ :=
      (exists_finding_at_iff hat).mp ⟨f, hf, hline, rfl, rfl⟩
    have hheld := holds_iff.mp (mem_terms_of_mem_reportedTerms hreported).2
    have hfull : f.content ∈ Tokens.fullWords content :=
      List.mem_filter.mpr ⟨hword, decide_eq_true hne⟩
    have hblank := (exists_word_holds_iff.mp ⟨f.content, hfull, hheld⟩).1
    exact ⟨hblank, hheld.trans hstands⟩
  · intro h
    -- The word of the line that holds the term is a word of the text, and the search for it finds the line.
    obtain ⟨word, hword, hheld⟩ := exists_word_holds_iff.mpr h
    have hfull : word ∈ Tokens.fullWords content := by
      rw [Tokens.fullWords_eq_flatMap_lines]
      exact List.mem_flatMap.mpr ⟨line, List.mem_of_getElem? hat, hword⟩
    obtain ⟨hmem, hne⟩ := List.mem_filter.mp hfull
    have hreported : term ∈ s.matcher.reportedTerms .string word :=
      (mem_reportedTerms_iff (by decide)).mpr ⟨hterm, holds_iff.mpr hheld⟩
    obtain ⟨f, hf, hline, -, hfound⟩ := (exists_finding_at_iff hat).mpr
      ⟨⟨hmem, of_decide_eq_true hne⟩, hreported, fold_word_isInfix hword⟩
    exact ⟨f, hf, hline, hfound⟩

end Settings

namespace Scanner

/-- A text that no parser reads is read as its words, unless it is too large. -/
theorem reading_of_plainText {s : Scanner} {name content : Text}
    (hplain : s.catalog.parser? (s.catalog.detect name content) = none) :
    s.reading name content =
      if s.sizeLimit < content.length then .error (.tooLarge name content.length s.sizeLimit)
      else .ok (Catalog.plainText, Tokens.ofWords content) := by
  rw [reading, hplain]

theorem search_ofWords {settings : Settings} (hstrings : settings.includeStrings = true)
    (content : Text) :
    (settings.search (Tokens.ofWords content)).2 =
      settings.matcher.findings .string (Tokens.splitWords content) (Text.lines content) := by
  rw [Settings.search, ← scanWords_eq, scanWords, if_pos hstrings]

/-- A source that no parser reads is refused only for its size. If strings count, a line of it is reported
with a term of the settings exactly when the term has no white space and the line holds it, both as the
settings compare texts; and all that is reported are terms of the settings without white space, each at a
line of the source. -/
theorem findings_of_plainText_iff {s : Scanner} (hs : s.InStep) (around : Surroundings) (source : Source)
    (content : Text) (hread : source.read around.disk = .ok content)
    (hplain : s.catalog.parser? (s.catalog.detect source.name content) = none)
    (hstrings : s.settings.includeStrings = true) :
    (s.sizeLimit < content.length ∧
        s.scanSource around source = .error (.tooLarge source.name content.length s.sizeLimit)) ∨
      ∃ report, s.scanSource around source = .ok report ∧
        (∀ term ∈ s.settings.terms, ∀ (place : Nat) (line : Text),
          (Text.lines content)[place]? = some line →
            ((∃ f ∈ report.findings, f.line = place + 1 ∧ f.term = term) ↔
              Text.hasBlank term.text = false ∧
                s.settings.matcher.fold term.text <:+: s.settings.matcher.fold line)) ∧
        ∀ f ∈ report.findings, f.term ∈ s.settings.terms ∧ Text.hasBlank f.term.text = false ∧
          ∃ place < (Text.lines content).length, f.line = (place : Nat) + 1 := by
  rw [scanSource_of_read hs hread, reading_of_plainText hplain]
  by_cases hsize : s.sizeLimit < content.length
  · rw [if_pos hsize]
    exact Or.inl ⟨hsize, rfl⟩
  · rw [if_neg hsize]
    refine Or.inr ⟨_, rfl, ?_⟩
    have hfindings : (reportOn s.settings around.now source.name source.displayPath
        (Catalog.plainText, Tokens.ofWords content)).findings = _ := search_ofWords hstrings content
    rw [hfindings]
    constructor
    · intro term hterm place line hat
      exact Settings.exists_finding_of_words_iff hat hterm
    · intro f hf
      obtain ⟨-, hreported, place, line, column, hpoints⟩ := Settings.mem_findings_iff.mp hf
      have hterm := (Settings.mem_terms_of_mem_reportedTerms hreported).1
      have hat := hpoints.line_at
      have hblank :=
        ((Settings.exists_finding_of_words_iff hat hterm).mp ⟨f, hf, hpoints.line_eq, rfl⟩).1
      exact ⟨hterm, hblank, place, (List.getElem?_eq_some_iff.mp hat).1, hpoints.line_eq⟩

/-- The second line of a text of no known language is reported with a term that it holds in another letter
case, and the first line is not. -/
theorem findings_of_plainText_iff_manager :
    ∃ report term, (Scanner.new Settings.builtin Catalog.builtin 100 []).scanSource
        ⟨⟨.folder [], []⟩, .whole 0⟩ ⟨"notes".toList, some "the plan\nthe MANager".toList, none⟩ = .ok report ∧
      (∃ f ∈ report.findings, f.line = 2 ∧ f.term = term) ∧
        ¬ ∃ f ∈ report.findings, f.line = 1 ∧ f.term = term := by
  obtain ⟨hsize, -⟩ | ⟨report, hscan, hlines, -⟩ :=
    findings_of_plainText_iff (inStep_new Settings.builtin Catalog.builtin 100 [])
      ⟨⟨.folder [], []⟩, .whole 0⟩ ⟨"notes".toList, some "the plan\nthe MANager".toList, none⟩
      "the plan\nthe MANager".toList rfl (by decide) rfl
  · exact absurd hsize (by decide)
  · have hreported := hlines _ List.mem_cons_self
    have hfirst := hreported 0 "the plan".toList (by decide)
    have hsecond := hreported 1 "the MANager".toList (by decide)
    rw [← Text.contains_iff] at hfirst hsecond
    exact ⟨report, _, hscan, hsecond.mpr (by decide), fun h => absurd (hfirst.mp h) (by decide)⟩

end Scanner

end Wording
