import Wording.Proofs.Export.Csv
import Wording.Proofs.Scan.Batch
import Wording.Proofs.Text.Digits
import Wording.Proofs.Text.Lines
import Wording.Proofs.Text.Lowercase

/-!
Which files the details of a batch declare clean. The record without a finding stands for a file without findings, and
the report on a file that could not be scanned has none. So the details declare a file that was scanned clean exactly
when nothing was found in it, and every file that was not scanned as well. A batch has details unless the line or the
column of a finding has too many digits, and a text of the built-in parsers has no such place if its size has half as
many.
-/

set_option autoImplicit false

namespace Wording

namespace Export

/-- What the details say of a finding has the number of a line, and so it declares no file clean. -/
theorem findingRow_ne_placeholderRecord (r r' : FileReport) (f : Finding) : findingRow r f ≠ placeholderRecord r' := by
  intro h
  exact Text.ofInt_ne_nil f.line (congrArg (fun record => record.getD 3 []) h)

/-- The details declare a file clean exactly when it has no findings, and then say nothing else of it. -/
theorem placeholderRecord_mem_detailRows_iff {r : FileReport} :
    placeholderRecord r ∈ detailRows r ↔ r.findings = [] := by
  rw [detailRows]
  split
  next hclean => exact iff_of_true (List.mem_singleton_self _) hclean
  next hfound =>
    refine iff_of_false ?_ hfound
    intro h
    obtain ⟨f, -, heq⟩ := List.mem_map.mp h
    exact findingRow_ne_placeholderRecord r r f heq

end Export

open Export

namespace Scanner

variable (s : Scanner) (around : Surroundings) (stop : Nat → Bool) (sources : List Source)

theorem scanRow_of_ok {s : Scanner} {around : Surroundings} {source : Source} {report : FileReport}
    (h : s.scanSource around source = .ok report) : (s.scanRow around source).1 = report := by
  rw [scanRow, h]

/-- The row of a source with a fault is the row of the fault. -/
theorem scanRow_of_mem_faults {fault : Source × ScanError} (h : fault ∈ s.faults around sources) :
    (s.scanRow around fault.1).1 = faultRow around fault := by
  rw [scanRow, ((mem_faults_iff s around sources).mp h).2]
  rfl

/-- That the details of a batch declare exactly those of its files clean that were scanned and in which nothing was
found. -/
def DeclaresScannedClean : Prop :=
  ∀ source ∈ reached stop 0 sources,
    (placeholderRecord (s.scanRow around source).1 ∈ detailRows (s.scanRow around source).1 ↔
      ∃ report, s.scanSource around source = .ok report ∧ report.findings = [])

/-- The details declare a file clean whose scan failed, and say nothing else of it. -/
theorem detailRows_of_mem_faults {fault : Source × ScanError} (h : fault ∈ s.faults around sources) :
    detailRows (s.scanRow around fault.1).1 = [placeholderRecord (faultRow around fault)] := by
  rw [scanRow_of_mem_faults s around sources h]
  exact if_pos rfl

/-- The details of a batch declare the right files clean exactly when none of its scans failed. -/
theorem declaresScannedClean_iff :
    DeclaresScannedClean s around stop sources ↔ s.faults around (reached stop 0 sources) = [] := by
  constructor
  · intro h
    apply List.eq_nil_iff_forall_not_mem.mpr
    intro fault hfault
    obtain ⟨hsource, hscan⟩ := (mem_faults_iff s around _).mp hfault
    have hclean : (s.scanRow around fault.1).1.findings = [] := by
      rw [scanRow_of_mem_faults s around _ hfault]
      rfl
    obtain ⟨report, hreport, -⟩ := (h fault.1 hsource).mp (placeholderRecord_mem_detailRows_iff.mpr hclean)
    rw [hreport] at hscan
    cases hscan
  · intro hnone source hsource
    rw [placeholderRecord_mem_detailRows_iff]
    cases hscan : s.scanSource around source with
    | ok report =>
      rw [scanRow_of_ok hscan]
      exact ⟨fun hclean => ⟨report, rfl, hclean⟩, fun ⟨_, heq, hclean⟩ => by cases heq; exact hclean⟩
    | error e =>
      have hfault : (source, e) ∈ s.faults around (reached stop 0 sources) :=
        (mem_faults_iff s around _).mpr ⟨hsource, hscan⟩
      rw [hnone] at hfault
      cases hfault

/-! ## Batches that have details -/

theorem length_line_le {content line : Text} {place : Nat} (h : (Text.lines content)[place]? = some line) :
    line.length ≤ content.length :=
  (Text.infix_of_mem_splitOnChar (List.mem_of_getElem? h)).length_le

/-- The form in which a line is compared is no more than twice as long as the line. -/
theorem length_fold_le (settings : Settings) (line : Text) : (settings.matcher.fold line).length ≤ 2 * line.length := by
  cases hs : settings.caseSensitive with
  | true =>
    rw [Settings.fold_of_caseSensitive hs]
    omega
  | false =>
    have hdots : line.count 'İ' ≤ line.length := List.count_le_length
    rw [Settings.fold_of_not_caseSensitive hs, Text.length_lower]
    omega

/-- The findings of tokens with the lines of a text have places that can be written, if twice the size of the text
can. -/
theorem hasWritablePlace_of_mem_search {settings : Settings} {tokens : Tokens} {content : Text}
    (hlines : tokens.lines = Text.lines content) (hsize : Text.isWritable (2 * content.length + 1 : Nat) = true)
    {f : Finding} (h : f ∈ (settings.search tokens).2) : f.HasWritablePlace := by
  obtain ⟨-, -, place, line, column, hpoints⟩ := Settings.mem_findings_iff.mp (mem_search_iff.mp h).2
  have hat := hpoints.line_at
  rw [hlines] at hat
  have hplace : place < (Text.lines content).length := (List.getElem?_eq_some_iff.mp hat).1
  have hcount := Text.length_lines_le content
  have hline := length_line_le hat
  have hfold := length_fold_le settings line
  have hcolumn := hpoints.first.le
  refine ⟨?_, ?_⟩
  · rw [hpoints.line_eq]
    exact Text.isWritable_of_natAbs_le (by omega) hsize
  · rw [hpoints.column_eq]
    exact Text.isWritable_of_natAbs_le (by omega) hsize

/-- With the built-in parsers and a size limit of which twice as much can be written, every batch has details. -/
theorem exists_detailCsv_of_builtin (hs : s.InStep) (hcatalog : s.catalog = Catalog.builtin)
    (hlimit : Text.isWritable (2 * s.sizeLimit.toNat + 1 : Nat) = true) :
    ∃ text, detailCsv (s.scanBatch around stop sources).1 = .ok text := by
  refine ⟨_, detailCsv_eq_ok_iff.mpr ⟨?_, rfl⟩⟩
  intro r hr f hf
  rw [scanBatch_files] at hr
  obtain ⟨source, -, rfl⟩ := List.mem_map.mp hr
  cases hscan : s.scanSource around source with
  | error e =>
    rw [scanRow, hscan] at hf
    exact absurd hf List.not_mem_nil
  | ok report =>
    rw [scanRow_of_ok hscan] at hf
    obtain ⟨content, hcontent, -⟩ := Attempt.bind_eq_ok_iff.mp hscan
    rw [scanSource_of_read hs hcontent] at hscan
    obtain ⟨-, hrefused⟩ | ⟨language, tokens, hread, hlines⟩ := reading_of_builtin hcatalog source.name content
    · rw [hrefused] at hscan
      cases hscan
    · have hsize : ¬ s.sizeLimit < content.length := fun hlarge => by
        rw [reading, if_pos hlarge] at hread
        cases hread
      rw [hread] at hscan
      cases hscan
      exact hasWritablePlace_of_mem_search hlines (Text.isWritable_of_natAbs_le (by omega) hlimit) hf

/-- The details of a batch read back as what they say of the sources that it came to, one source after the other. There
are details exactly when no line and no column of a finding has too many digits, and always with the built-in parsers
and a size limit of which twice as much can be written. A source that was scanned is declared clean exactly when nothing
was found in it, and a source whose scan failed always is. So the details declare exactly the scanned sources without
findings clean exactly when none of the scans failed. -/
theorem placeholders_of_scanBatch :
    (∀ text, detailCsv (s.scanBatch around stop sources).1 = .ok text →
        readTable? text = some (detailColumns :: (reached stop 0 sources).flatMap fun source =>
          detailRows (s.scanRow around source).1)) ∧
      ((∃ text, detailCsv (s.scanBatch around stop sources).1 = .ok text) ↔
        ∀ source ∈ reached stop 0 sources, ∀ f ∈ (s.scanRow around source).1.findings, f.HasWritablePlace) ∧
      (s.InStep → s.catalog = Catalog.builtin → Text.isWritable (2 * s.sizeLimit.toNat + 1 : Nat) = true →
        ∃ text, detailCsv (s.scanBatch around stop sources).1 = .ok text) ∧
      (∀ source ∈ reached stop 0 sources, ∀ report, s.scanSource around source = .ok report →
        (s.scanRow around source).1 = report ∧
          (placeholderRecord report ∈ detailRows report ↔ report.findings = [])) ∧
      (∀ fault ∈ s.faults around (reached stop 0 sources),
        detailRows (s.scanRow around fault.1).1 = [placeholderRecord (faultRow around fault)]) ∧
      (DeclaresScannedClean s around stop sources ↔ s.faults around (reached stop 0 sources) = []) := by
  refine ⟨?_, ?_, exists_detailCsv_of_builtin s around stop sources, ?_,
    fun fault => detailRows_of_mem_faults s around _, declaresScannedClean_iff s around stop sources⟩
  · intro text htext
    rw [(readTable?_detailCsv htext).1, scanBatch_files, List.flatMap_map]
  · simp only [detailCsv_eq_ok_iff, exists_and_left, exists_eq, and_true, scanBatch_files, List.forall_mem_map]
  · intro source _ report hreport
    exact ⟨scanRow_of_ok hreport, placeholderRecord_mem_detailRows_iff⟩

/-- A file that is too large to be scanned is declared clean. -/
theorem placeholders_of_scanBatch_tooLarge :
    (new Settings.builtin Catalog.builtin 1 []).scanSource ⟨⟨.folder [], []⟩, .whole 0⟩
        ⟨"big.js".toList, some "xx".toList, none⟩ = .error (.tooLarge "big.js".toList 2 1) ∧
      (detailCsv ((new Settings.builtin Catalog.builtin 1 []).scanBatch ⟨⟨.folder [], []⟩, .whole 0⟩ never
        [⟨"big.js".toList, some "xx".toList, none⟩]).1).toOption >>= readTable? =
      some [detailColumns, ["big.js".toList, "big.js".toList, "text".toList, [], [], [], [], [], [],
        "No biased terms found".toList, []]] := by
  constructor
  · decide
  · decide +kernel

/-- A batch of a file with a finding and a file without one has details that declare the right file clean. -/
theorem placeholders_of_scanBatch_scanned :
    DeclaresScannedClean (new Settings.builtin Catalog.builtin 100 []) ⟨⟨.folder [], []⟩, .whole 0⟩ never
        [⟨"a.js".toList, some "let man = 1".toList, none⟩, ⟨"b.js".toList, some "x".toList, none⟩] ∧
      ∃ text, detailCsv ((new Settings.builtin Catalog.builtin 100 []).scanBatch ⟨⟨.folder [], []⟩, .whole 0⟩ never
        [⟨"a.js".toList, some "let man = 1".toList, none⟩, ⟨"b.js".toList, some "x".toList, none⟩]).1 = .ok text := by
  obtain ⟨-, -, hexists, -, -, hclean⟩ := placeholders_of_scanBatch (new Settings.builtin Catalog.builtin 100 [])
    ⟨⟨.folder [], []⟩, .whole 0⟩ never
    [⟨"a.js".toList, some "let man = 1".toList, none⟩, ⟨"b.js".toList, some "x".toList, none⟩]
  exact ⟨hclean.mpr (by decide +kernel), hexists rfl rfl (by decide +kernel)⟩

end Scanner

end Wording
