import Wording.Settings.Builtin
import Wording.Proofs.Text.Lines
import Wording.Proofs.Scan.Content

/-!
Where the findings of a scan point to. When letter case matters, a finding cites the text that was scanned:
its content stands at its line and column, at no earlier column of that line, and its context is that line
without the blanks around it.
-/

set_option autoImplicit false

namespace Wording

namespace Finding

/-- The line of a text that a finding names, empty if the text has no such line. -/
def lineIn (f : Finding) (t : Text) : Text := (Text.lines t).getD (f.line - 1).toNat []

/-- That a finding names a line of a text and the first column at which its content stands there. -/
structure Cites (f : Finding) (t : Text) : Prop where
  one_le_line : 1 ≤ f.line
  line_le : f.line ≤ (Text.lines t).length
  column_nonneg : 0 ≤ f.column
  slice_eq : ((f.lineIn t).drop f.column.toNat).take f.content.length = f.content
  noEarlier : ∀ earlier < f.column.toNat, ¬ f.content <+: (f.lineIn t).drop earlier
  context_eq : f.context = Text.trim (f.lineIn t)

end Finding

theorem Settings.PointsTo.lineIn_eq {s : Settings} {t : Text} {f : Finding} {place : Nat} {line : Text}
    {column : Nat} (h : s.PointsTo (Text.lines t) f place line column) : f.lineIn t = line := by
  have hplace : (f.line - 1).toNat = place := by
    rw [h.line_eq]
    omega
  rw [Finding.lineIn, hplace, List.getD_eq_getElem?_getD, h.line_at, Option.getD_some]

/-- When letter case matters, a finding cites the text that it points to. -/
theorem Settings.PointsTo.cites {s : Settings} (hs : s.caseSensitive = true) {t : Text} {f : Finding}
    {place : Nat} {line : Text} {column : Nat} (h : s.PointsTo (Text.lines t) f place line column) :
    f.Cites t := by
  have hplace : place < (Text.lines t).length := (List.getElem?_eq_some_iff.mp h.line_at).1
  have hline := h.line_eq
  have hcolumn : f.column.toNat = column := by
    rw [h.column_eq]
    rfl
  have hfirst := h.first
  rw [Settings.fold_of_caseSensitive hs, Settings.fold_of_caseSensitive hs] at hfirst
  refine ⟨by omega, by omega, ?_, ?_, ?_, ?_⟩
  · rw [h.column_eq]
    exact Int.natCast_nonneg column
  · rw [h.lineIn_eq, hcolumn]
    exact (List.prefix_iff_eq_take.mp hfirst.starts).symm
  · rw [h.lineIn_eq, hcolumn]
    exact hfirst.noEarlier
  · rw [h.lineIn_eq]
    exact h.context_eq

namespace Scanner

/-- The findings of tokens with the lines of a text cite that text, and each reports a term of the settings
that its content holds. -/
theorem cites_of_mem_search {settings : Settings} (hs : settings.caseSensitive = true)
    {tokens : Tokens} {t : Text} (hlines : tokens.lines = Text.lines t) {f : Finding}
    (h : f ∈ (settings.search tokens).2) :
    f.Cites t ∧ (f.term ∈ settings.terms ∧ f.term.text <:+: f.content) ∧
      settings.counts f.kind = true := by
  obtain ⟨hcounts, hfinding⟩ := mem_search_iff.mp h
  rw [hlines] at hfinding
  obtain ⟨-, hreported, place, line, column, hpoints⟩ := Settings.mem_findings_iff.mp hfinding
  obtain ⟨hterm, hholds⟩ := Settings.mem_terms_of_mem_reportedTerms hreported
  have hheld := (Settings.holds_iff_of_caseSensitive hs).mp hholds
  exact ⟨hpoints.cites hs, ⟨hterm, hheld⟩, hcounts⟩

/-- With the built-in parsers and letter case minded, a scan of a text is refused only for its size. All
findings of its report cite the text, each is of a kind that counts, and each reports a term of the settings
that stands in its content. -/
theorem findings_of_scanText_cite {s : Scanner} (hs : s.InStep) (hcatalog : s.catalog = Catalog.builtin)
    (hsensitive : s.settings.caseSensitive = true) (around : Surroundings) (name content : Text) :
    Text.join ['\n'] (Text.lines content) = content ∧
      ((s.sizeLimit < content.length ∧
          s.scanText around name content = .error (.tooLarge name content.length s.sizeLimit)) ∨
        ∃ report, s.scanText around name content = .ok report ∧
          ∀ f ∈ report.findings,
            f.Cites content ∧ (f.term ∈ s.settings.terms ∧ f.term.text <:+: f.content) ∧
              s.settings.counts f.kind = true) := by
  refine ⟨Text.join_lines content, ?_⟩
  rw [scanText_eq hs]
  rcases reading_of_builtin hcatalog name content with ⟨hsize, hread⟩ | ⟨language, tokens, hread, hlines⟩
  · refine Or.inl ⟨hsize, ?_⟩
    rw [hread]
    rfl
  · refine Or.inr ⟨reportOn s.settings around.now name name (language, tokens), ?_, ?_⟩
    · rw [hread]
      rfl
    · intro f hf
      exact cites_of_mem_search hsensitive hlines hf

/-- The report on a line with one word of the settings cites that line. -/
theorem findings_of_scanText_cite_master :
    ∃ report, (Scanner.new { Settings.builtin with caseSensitive := true } Catalog.builtin 100 []).scanText
        ⟨⟨.folder [], []⟩, .whole 0⟩ "a.js".toList "let master = 1".toList = .ok report ∧
      report.findings.map (fun f => (f.line, f.column)) = [(1, 4)] ∧
        ∀ f ∈ report.findings, f.Cites "let master = 1".toList := by
  obtain ⟨-, ⟨hsize, -⟩ | ⟨report, hscan, hfindings⟩⟩ :=
    findings_of_scanText_cite
      (inStep_new { Settings.builtin with caseSensitive := true } Catalog.builtin 100 [])
      rfl rfl ⟨⟨.folder [], []⟩, .whole 0⟩ "a.js".toList "let master = 1".toList
  · exact absurd hsize (by decide)
  · refine ⟨report, hscan, ?_, fun f hf => (hfindings f hf).1⟩
    have hplaces : ((Scanner.new { Settings.builtin with caseSensitive := true } Catalog.builtin 100
        []).scanText ⟨⟨.folder [], []⟩, .whole 0⟩ "a.js".toList "let master = 1".toList).toOption.map
        (fun r => r.findings.map fun f => (f.line, f.column)) = some [(1, 4)] := by decide
    rw [hscan] at hplaces
    exact Option.some.inj hplaces

end Scanner

end Wording
