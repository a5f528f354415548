import Wording.Settings.Builtin
import Wording.Proofs.Finding.Identifiers
import Wording.Proofs.Scan.Content

/-!
The findings of identifiers in a scan. Each of the built-in parsers answers an identifier once, however many shapes it
is found in and however often it stands in the text, so an identifier has one finding for each line that holds it, and
that finding names the first term of the settings that the identifier holds.
-/

set_option autoImplicit false

namespace Wording

namespace Scanner

/-- With the built-in parsers each identifier of a text is read once. -/
theorem nodup_identifiers_of_reading {s : Scanner} (hcatalog : s.catalog = Catalog.builtin) {name content : Text}
    {read : Text × Tokens} (h : s.reading name content = .ok read) : read.2.identifiers.Nodup := by
  rcases ofWords_or_parse_of_reading h with hwords | ⟨parser, hmem, hparse⟩
  · rw [hwords]
    exact .nil
  · rw [hcatalog] at hmem
    exact Parser.nodup_identifiers_of_mem_builtin hmem hparse

/-- Where each identifier is read once, it has no more than one finding on a line. -/
theorem nodup_filter_identifier_search {settings : Settings} {tokens : Tokens} (h : tokens.identifiers.Nodup) :
    (((settings.search tokens).2.filter (·.kind = .identifier)).map fun f => (f.line, f.content)).Nodup := by
  rw [filter_kind_search]
  split
  · exact Settings.nodup_findings_identifier h
  · exact .nil

/-- The finding of an identifier names the first term that the identifier holds. -/
theorem isFirstHeld_of_mem_search {settings : Settings} {tokens : Tokens} {f : Finding}
    (h : f ∈ (settings.search tokens).2) (hkind : f.kind = .identifier) :
    settings.IsFirstHeld f.content f.term := by
  obtain ⟨-, hfinding⟩ := mem_search_iff.mp h
  rw [hkind] at hfinding
  exact Settings.isFirstHeld_of_mem_findings hfinding

/-- With the built-in parsers, a scan of a text is refused only for its size. Its report has no two findings of
identifiers with the same line and content, and each of them names the first term of the settings that its content
holds, which is the first of all terms that it holds. -/
theorem identifiers_of_scanText {s : Scanner} (hs : s.InStep) (hcatalog : s.catalog = Catalog.builtin)
    (around : Surroundings) (name content : Text) :
    (s.sizeLimit < content.length ∧
        s.scanText around name content = .error (.tooLarge name content.length s.sizeLimit)) ∨
      ∃ report, s.scanText around name content = .ok report ∧
        ((report.findings.filter (·.kind = .identifier)).map fun f => (f.line, f.content)).Nodup ∧
        ∀ f ∈ report.findings, f.kind = .identifier →
          s.settings.IsFirstHeld f.content f.term ∧ (s.settings.matcher.allTerms f.content).head? = some f.term := by
  rw [scanText_eq hs]
  rcases reading_of_builtin hcatalog name content with ⟨hsize, hread⟩ | ⟨language, tokens, hread, -⟩
  · refine Or.inl ⟨hsize, ?_⟩
    rw [hread]
    rfl
  · refine Or.inr ⟨reportOn s.settings around.now name name (language, tokens), ?_, ?_, fun f hf hkind => ?_⟩
    · rw [hread]
      rfl
    · exact nodup_filter_identifier_search (nodup_identifiers_of_reading hcatalog hread)
    · have hfirst : s.settings.IsFirstHeld f.content f.term := isFirstHeld_of_mem_search hf hkind
      refine ⟨hfirst, ?_⟩
      rw [Settings.head?_allTerms]
      exact Settings.firstTerm?_eq_some_iff.mpr hfirst

/-- An identifier that stands twice on a line and holds two terms has one finding there, under the first of them. -/
theorem identifiers_of_scanText_womanizer :
    ∃ report, (new Settings.builtin Catalog.builtin 100 []).scanText ⟨⟨.folder [], []⟩, .whole 0⟩ "a.ts".toList
        "let womanizer = womanizer.master()\nwomanizer.slave = 1".toList = .ok report ∧
      (report.findings.map fun f => (f.line, f.content, f.term.text)) =
        [(1, "womanizer".toList, "man".toList), (2, "womanizer".toList, "man".toList),
          (1, "master".toList, "master".toList), (2, "slave".toList, "slave".toList)] ∧
      ((report.findings.filter (·.kind = .identifier)).map fun f => (f.line, f.content)).Nodup ∧
      ∀ f ∈ report.findings, f.kind = .identifier → Settings.builtin.IsFirstHeld f.content f.term ∧
        (Settings.builtin.matcher.allTerms f.content).head? = some f.term := by
  have hfound : ((new Settings.builtin Catalog.builtin 100 []).scanText ⟨⟨.folder [], []⟩, .whole 0⟩ "a.ts".toList
      "let womanizer = womanizer.master()\nwomanizer.slave = 1".toList).toOption.map
        (fun report => report.findings.map fun f => (f.line, f.content, f.term.text)) =
      some [(1, "womanizer".toList, "man".toList), (2, "womanizer".toList, "man".toList),
        (1, "master".toList, "master".toList), (2, "slave".toList, "slave".toList)] := by decide +kernel
  obtain ⟨hsize, -⟩ | ⟨report, hscan, hnodup, hfirst⟩ :=
    identifiers_of_scanText (inStep_new Settings.builtin Catalog.builtin 100 []) rfl ⟨⟨.folder [], []⟩, .whole 0⟩
      "a.ts".toList
      "let womanizer = womanizer.master()\nwomanizer.slave = 1".toList
  · exact absurd hsize (by decide)
  · rw [hscan] at hfound
    exact ⟨report, hscan, Option.some.inj hfound, hnodup, hfirst⟩

end Scanner

end Wording
