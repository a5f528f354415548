import Wording.Proofs.Scan.Location
import Wording.Proofs.Text.Casing

/-! # What ignoring letter case does to a report

A token is reported at a line when it holds a term of the settings and the line holds it, both as the settings compare
texts. So a finding that is made with letter case is made without it too exactly when the small form of its content
still holds that of a term and still stands in that of the line. It does unless a capital sigma at the edge of the
content or of its term may turn.

The text is read the same way under both settings, so that only the search differs, and findings are compared by their
spots: what is found, of which kind, on which line. The small form of a piece of a text is a piece of the small form if
the piece keeps its small form wherever it stands, which is what a sigma at its edge can spoil
(`spot_mem_ignoringCase_of_not_sigmaAtEdge`); a text without the capital sigma has none in its tokens either.
-/

set_option autoImplicit false

namespace Wording

/-- The kind, the line and the content of a finding. -/
def Finding.spot (f : Finding) : TokenKind × Int × Text := (f.kind, f.line, f.content)

theorem Finding.lineIn_isInfix (f : Finding) (t : Text) : f.lineIn t <:+: t := by
  rw [lineIn, List.getD_eq_getElem?_getD]
  cases hat : (Text.lines t)[(f.line - 1).toNat]? with
  | none => exact List.nil_infix
  | some line => exact Text.infix_of_mem_splitOnChar (List.mem_of_getElem? hat)

/-- The settings with letter case minded or ignored. -/
def Settings.withCase (s : Settings) (sensitive : Bool) : Settings :=
  { s with caseSensitive := sensitive }

namespace Scanner

variable {settings : Settings} {tokens : Tokens}

/-- A token is reported at a line exactly when it counts, holds a term of the settings and stands in the line,
both as the settings compare texts. -/
theorem mem_spots_iff {kind : TokenKind} {token line : Text} {place : Nat}
    (hat : tokens.lines[place]? = some line) :
    (kind, (place : Int) + 1, token) ∈ (settings.search tokens).2.map Finding.spot ↔
      (settings.counts kind = true ∧ token ∈ tokens.ofKind kind ∧ token ≠ []) ∧
        (∃ term ∈ settings.terms, settings.matcher.holds token term = true) ∧
        settings.matcher.fold token <:+: settings.matcher.fold line := by
  rw [List.mem_map]
  constructor
  · rintro ⟨f, hf, hspot⟩
    obtain ⟨rfl, hline, rfl⟩ : f.kind = kind ∧ f.line = place + 1 ∧ f.content = token := by
      simpa only [Finding.spot, Prod.mk.injEq] using hspot
    obtain ⟨hcounts, hfinding⟩ := mem_search_iff.mp hf
    obtain ⟨htoken, hreported, hstands⟩ :=
      (Settings.exists_finding_at_iff hat).mp ⟨f, hfinding, hline, rfl, rfl⟩
    have hheld := Settings.mem_terms_of_mem_reportedTerms hreported
    exact ⟨⟨hcounts, htoken⟩, ⟨f.term, hheld⟩, hstands⟩
  · rintro ⟨⟨hcounts, htoken⟩, ⟨term, hterm, hholds⟩, hstands⟩
    -- An identifier may report another term than the given one, the first that it holds.
    obtain ⟨reported, hreported⟩ : ∃ reported, reported ∈ settings.matcher.reportedTerms kind token :=
      Settings.exists_mem_reportedTerms hterm hholds
    obtain ⟨f, hfinding, hline, rfl, -⟩ :=
      (Settings.exists_finding_at_iff hat).mpr ⟨htoken, hreported, hstands⟩
    obtain rfl : f.kind = kind := (Settings.mem_findings_iff.mp hfinding).1.1
    refine ⟨f, mem_search_iff.mpr ⟨hcounts, hfinding⟩, ?_⟩
    rw [Finding.spot, hline]

/-- What is reported with letter case is reported without it exactly when the small form of its content holds
that of a term of the settings and stands in that of its line. -/
theorem spot_mem_ignoringCase_iff {t : Text} (hlines : tokens.lines = Text.lines t) {f : Finding}
    (h : f ∈ ((settings.withCase true).search tokens).2) :
    f.spot ∈ ((settings.withCase false).search tokens).2.map Finding.spot ↔
      (∃ term ∈ settings.terms, Text.lower term.text <:+: Text.lower f.content) ∧
        Text.lower f.content <:+: Text.lower (f.lineIn t) := by
  obtain ⟨-, -, place, line, column, hpoints⟩ :=
    Settings.mem_findings_iff.mp (mem_search_iff.mp h).2
  have hat := hpoints.line_at
  have hspot : f.spot = (f.kind, (place : Int) + 1, f.content) := by
    rw [Finding.spot, hpoints.line_eq]
  have hmem : f.spot ∈ ((settings.withCase true).search tokens).2.map Finding.spot :=
    List.mem_map_of_mem h
  rw [hspot] at hmem
  have hminded := (mem_spots_iff hat).mp hmem
  rw [hlines] at hpoints
  rw [hpoints.lineIn_eq, hspot, mem_spots_iff hat]
  simp only [Settings.holds_iff]
  exact and_iff_right hminded.1

/-- What is reported with letter case stands in its line and holds its term. -/
theorem stands_and_holds_of_mem {t : Text} (hlines : tokens.lines = Text.lines t) {f : Finding}
    (h : f ∈ ((settings.withCase true).search tokens).2) :
    f.content <:+: f.lineIn t ∧ f.term ∈ settings.terms ∧ f.term.text <:+: f.content := by
  obtain ⟨hcites, hheld, -⟩ := cites_of_mem_search rfl hlines h
  refine ⟨?_, hheld⟩
  rw [← hcites.slice_eq]
  exact (List.take_prefix _ _).isInfix.trans (List.drop_suffix _ _).isInfix

/-- What is reported with letter case is reported without it if neither its content nor its term has a capital
sigma at the edge that may turn. -/
theorem spot_mem_ignoringCase_of_not_sigmaAtEdge {t : Text} (hlines : tokens.lines = Text.lines t)
    {f : Finding} (h : f ∈ ((settings.withCase true).search tokens).2)
    (hterm : Text.sigmaAtEdge f.term.text = false) (hcontent : Text.sigmaAtEdge f.content = false) :
    f.spot ∈ ((settings.withCase false).search tokens).2.map Finding.spot := by
  obtain ⟨hstands, hmem, hheld⟩ := stands_and_holds_of_mem hlines h
  refine (spot_mem_ignoringCase_iff hlines h).mpr ⟨⟨f.term, hmem, ?_⟩, ?_⟩
  · exact Text.keepsSmallForm_of_not_sigmaAtEdge hterm _ hheld
  · exact Text.keepsSmallForm_of_not_sigmaAtEdge hcontent _ hstands

/-- What is reported of a text without the capital sigma has none at its edge, nor has its term. -/
theorem not_sigmaAtEdge_of_mem {t : Text} (hlines : tokens.lines = Text.lines t) (hsigma : 'Σ' ∉ t)
    {f : Finding} (h : f ∈ ((settings.withCase true).search tokens).2) :
    Text.sigmaAtEdge f.term.text = false ∧ Text.sigmaAtEdge f.content = false := by
  obtain ⟨hstands, -, hheld⟩ := stands_and_holds_of_mem hlines h
  have hline := f.lineIn_isInfix t
  have hcontent : 'Σ' ∉ f.content := fun hmem => hsigma ((hstands.trans hline).subset hmem)
  have hterm : 'Σ' ∉ f.term.text := fun hmem => hcontent (hheld.subset hmem)
  exact ⟨Text.sigmaAtEdge_of_notMem hterm, Text.sigmaAtEdge_of_notMem hcontent⟩

/-- The scanner with letter case minded or ignored. -/
def withCase (s : Scanner) (sensitive : Bool) : Scanner :=
  s.withSettings (s.settings.withCase sensitive)

/-- With the built-in parsers, a text is refused for its size with and without letter case, or it is reported
on both times. What is reported with letter case is then reported without it at the same line exactly when
the small form of its content holds that of a term of the settings and stands in that of the line. It is
unless a capital sigma at the edge of its content or of its term may turn, and all of it is if the text
has no capital sigma. -/
theorem findings_of_scanText_ignoringCase (s : Scanner) (hcatalog : s.catalog = Catalog.builtin)
    (around : Surroundings) (name content : Text) :
    (s.sizeLimit < content.length ∧
        ∀ sensitive, (s.withCase sensitive).scanText around name content =
          .error (.tooLarge name content.length s.sizeLimit)) ∨
      ∃ minded ignored, (s.withCase true).scanText around name content = .ok minded ∧
        (s.withCase false).scanText around name content = .ok ignored ∧
        (∀ f ∈ minded.findings,
          (f.spot ∈ ignored.findings.map Finding.spot ↔
            (∃ term ∈ s.settings.terms, Text.lower term.text <:+: Text.lower f.content) ∧
              Text.lower f.content <:+: Text.lower (f.lineIn content)) ∧
          (Text.sigmaAtEdge f.term.text = false → Text.sigmaAtEdge f.content = false →
            f.spot ∈ ignored.findings.map Finding.spot)) ∧
        ('Σ' ∉ content → ∀ f ∈ minded.findings, f.spot ∈ ignored.findings.map Finding.spot) := by
  have hscan : ∀ sensitive, (s.withCase sensitive).scanText around name content =
      (s.reading name content).map
        (reportOn (s.settings.withCase sensitive) around.now name name) :=
    fun _ => scanText_eq (s.inStep_withSettings _) around name content
  rcases reading_of_builtin hcatalog name content with ⟨hsize, hread⟩ | ⟨language, tokens, hread, hlines⟩
  · refine Or.inl ⟨hsize, fun sensitive => ?_⟩
    rw [hscan, hread]
    rfl
  · rw [hread] at hscan
    refine Or.inr ⟨_, _, hscan true, hscan false, fun f hf => ⟨?_, ?_⟩, fun hsigma f hf => ?_⟩
    · exact spot_mem_ignoringCase_iff hlines hf
    · exact spot_mem_ignoringCase_of_not_sigmaAtEdge hlines hf
    · obtain ⟨hterm, hcontent⟩ := not_sigmaAtEdge_of_mem hlines hsigma hf
      exact spot_mem_ignoringCase_of_not_sigmaAtEdge hlines hf hterm hcontent

/-- What is reported of a line with one word of the settings is reported without letter case too. -/
theorem findings_of_scanText_ignoringCase_master :
    ∃ minded ignored,
      ((Scanner.new Settings.builtin Catalog.builtin 100 []).withCase true).scanText
          ⟨⟨.folder [], []⟩, .whole 0⟩ "a.js".toList "let master = 1".toList = .ok minded ∧
        ((Scanner.new Settings.builtin Catalog.builtin 100 []).withCase false).scanText
          ⟨⟨.folder [], []⟩, .whole 0⟩ "a.js".toList "let master = 1".toList = .ok ignored ∧
        minded.findings.map Finding.spot = [(.identifier, 1, "master".toList)] ∧
        ∀ f ∈ minded.findings, f.spot ∈ ignored.findings.map Finding.spot := by
  obtain ⟨hsize, -⟩ | ⟨minded, ignored, hminded, hignored, -, hkept⟩ :=
    findings_of_scanText_ignoringCase (Scanner.new Settings.builtin Catalog.builtin 100 []) rfl
      ⟨⟨.folder [], []⟩, .whole 0⟩ "a.js".toList "let master = 1".toList
  · exact absurd hsize (by decide)
  · refine ⟨minded, ignored, hminded, hignored, ?_, hkept (by decide)⟩
    have hspots : (((Scanner.new Settings.builtin Catalog.builtin 100 []).withCase true).scanText
        ⟨⟨.folder [], []⟩, .whole 0⟩ "a.js".toList "let master = 1".toList).toOption.map
        (fun report => report.findings.map Finding.spot) =
          some [(.identifier, 1, "master".toList)] := by decide
    rw [hminded] at hspots
    exact Option.some.inj hspots

/-- A string whose last letter is a capital sigma is reported with letter case and not without it when the
code behind its quote goes on with a letter. -/
theorem findings_of_scanText_behind_sigma :
    (((Scanner.new Settings.builtin Catalog.builtin 100 []).withCase true).scanText
        ⟨⟨.folder [], []⟩, .whole 0⟩ "a.js".toList "'manΣ'in x".toList).toOption.map
        (fun report => report.findings.map Finding.spot) = some [(.string, 1, "manΣ".toList)] ∧
      (((Scanner.new Settings.builtin Catalog.builtin 100 []).withCase false).scanText
        ⟨⟨.folder [], []⟩, .whole 0⟩ "a.js".toList "'manΣ'in x".toList).toOption.map
        (fun report => report.findings.map Finding.spot) = some [] := by
  refine ⟨?_, ?_⟩ <;> decide

end Scanner

end Wording
