import Mathlib.Algebra.BigOperators.Ring.List
import Mathlib.Algebra.Ring.Int.Defs
import Wording.Settings.Builtin
import Wording.Proofs.Attempt
import Wording.Proofs.Scan.Content

/-! # What a batch makes of its sources

Each source that a batch comes to before its signal leaves one row, which depends on no other source: the report of its
scan, or one with nothing but the error (`scanRows_eq_map`). So the rows of two batches in a row are those of both, and
what is said of a batch is said of its rows one by one.

The batch adds up its rows and ends as partially failed exactly when one of its scans failed. It then lists that
failure, unless a parser gave up without a word: the list knows failures by their wording only. All errors but that one
say something (`ScanError.message_eq_nil_iff`), and only a parser of the catalog can give up
(`exists_parser_of_gaveUp`), so the list is whole whenever no parser of the catalog gives up without a word. The scans
that fail are counted among the sources, by `faults`, apart from what the rows say of them.
-/

set_option autoImplicit false

namespace Wording

theorem Text.ne_nil_of_words {words : String} (h : words ≠ "") (after : Text) :
    words.toList ++ after ≠ [] := by
  intro hnil
  exact h (String.toList_eq_nil_iff.mp (List.append_eq_nil_iff.mp hnil).1)

theorem FileError.message_ne_nil (e : FileError) : e.message ≠ [] := by
  unfold message
  cases e with
  | notFound path | isFolder path | notFolder path | nameTooLong path =>
    apply Text.ne_nil_of_words
    decide
  | notPath =>
    apply mt String.toList_eq_nil_iff.mp
    decide
  | notUtf8 fault =>
    unfold Text.Utf8Error.message
    simp only [List.append_assoc]
    apply Text.ne_nil_of_words
    decide

/-- The only scan error that says nothing is that of a parser that gives up without a word. -/
theorem ScanError.message_eq_nil_iff {e : ScanError} : e.message = [] ↔ e = .parserGaveUp [] := by
  unfold message
  cases e with
  | nothingToRead name =>
    refine iff_of_false ?_ ScanError.noConfusion
    simp only [List.append_assoc]
    apply Text.ne_nil_of_words
    decide
  | file fault => exact iff_of_false fault.message_ne_nil ScanError.noConfusion
  | tooLarge name size limit =>
    refine iff_of_false ?_ ScanError.noConfusion
    dsimp only
    split
    · simp only [List.append_assoc]
      apply List.append_ne_nil_of_right_ne_nil
      apply Text.ne_nil_of_words
      decide
    · exact Text.ne_nil_of_words (by decide) _
  | parserGaveUp text => rw [ScanError.parserGaveUp.injEq]

theorem Source.read_ne_gaveUp (source : Source) (disk : Disk) (message : Text) :
    source.read disk ≠ .error (.parserGaveUp message) := by
  unfold read
  split
  next => exact nofun
  next path _ _ =>
    cases hread : disk.readText (Path.plain path) with
    | ok content =>
      rw [Except.mapError]
      exact nofun
    | error fault =>
      rw [Except.mapError]
      exact nofun
  next => exact nofun

/-- That the totals of a batch report are those of its rows, for some number of sources and some seconds for
each finding. -/
structure BatchReport.AddsUp (b : BatchReport) (sources : Nat) (timePerFix : Int) : Prop where
  totalFiles_eq : b.totalFiles = sources
  scannedFiles_eq : b.scannedFiles = b.files.length
  totalOccurrences_eq : b.totalOccurrences = (b.files.map fun r => (r.findings.length : Int)).sum
  estimatedTotalTime_eq : b.estimatedTotalTime = timePerFix * b.totalOccurrences

namespace Scanner

variable (s : Scanner) (around : Surroundings) (stop : Nat → Bool) (source : Source)
  (sources : List Source)

/-! ## Rows -/

/-- The sources that a batch comes to before its signal, when some sources are behind it. -/
def reached (stop : Nat → Bool) (done : Nat) : List Source → List Source
  | [] => []
  | source :: rest => if stop done then [] else source :: reached stop (done + 1) rest

theorem reached_never (done : Nat) : reached never done sources = sources := by
  induction sources generalizing done with
  | nil => rfl
  | cons source rest ih =>
    rw [reached, ih]
    rfl

/-- The rows of a batch are those of the sources that it comes to, each on its own. -/
theorem scanRows_eq_map (done : Nat) :
    s.scanRows around stop done sources = (reached stop done sources).map (s.scanRow around) := by
  induction sources generalizing done with
  | nil => rfl
  | cons source rest ih =>
    rw [scanRows, reached]
    split
    · rfl
    · rw [ih, List.map_cons]

theorem scanRow_beginBatch : s.beginBatch.scanRow around = s.scanRow around :=
  rfl

/-- The files of a batch are the rows of the sources that it comes to. -/
theorem scanBatch_files :
    (s.scanBatch around stop sources).1.files =
      (reached stop 0 sources).map fun source => (s.scanRow around source).1 := by
  simp only [scanBatch, scanRows_eq_map, scanRow_beginBatch, List.map_map]
  rfl

theorem scanBatch_never_files :
    (s.scanBatch around never sources).1.files =
      sources.map fun source => (s.scanRow around source).1 := by
  rw [scanBatch_files, reached_never]

/-! ## Totals -/

/-- That a row of a batch counts its findings, tells their share in some total and the time of the batch, and has the
language of a parser or that of plain text. -/
structure CountsFindings (s : Scanner) (around : Surroundings) (r : FileReport) : Prop where
  biasedElements : r.biasedElements = r.findings.length
  estimatedFixTime : r.estimatedFixTime = s.settings.timePerFix * r.findings.length
  share : ∃ total, r.biasPercentage = Number.percentage r.findings.length total
  lastScanned : r.lastScanned = around.now
  language : r.language = Catalog.plainText ∨ r.language ∈ s.catalog.languages

/-- A report on a source counts its findings and says nothing of an error. -/
theorem countsFindings_of_scanSource {report : FileReport} (h : s.scanSource around source = .ok report) :
    s.CountsFindings around report ∧ report.error = [] := by
  obtain ⟨content, -, hscan⟩ := Attempt.bind_eq_ok_iff.mp h
  unfold scanContent at hscan
  split at hscan
  · cases hscan
  · dsimp only at hscan
    split at hscan
    · cases hscan
      exact ⟨⟨rfl, Int.mul_comm _ _, ⟨_, rfl⟩, rfl, .inl rfl⟩, rfl⟩
    next parser hparser =>
      have hlanguage := List.find?_some hparser
      have hmem := List.mem_map.mpr ⟨parser, List.mem_of_find?_eq_some hparser, of_decide_eq_true hlanguage⟩
      split at hscan
      · cases hscan
      · cases hscan
        exact ⟨⟨rfl, Int.mul_comm _ _, ⟨_, rfl⟩, rfl, .inr hmem⟩, rfl⟩

theorem countsFindings_scanRow : s.CountsFindings around (s.scanRow around source).1 := by
  rw [scanRow]
  cases hscan : s.scanSource around source with
  | error e => exact ⟨rfl, (Int.mul_zero _).symm, ⟨0, rfl⟩, rfl, .inl rfl⟩
  | ok report => exact (countsFindings_of_scanSource s around source hscan).1

theorem countsFindings_of_mem_scanBatch {report : FileReport}
    (h : report ∈ (s.scanBatch around stop sources).1.files) : s.CountsFindings around report := by
  rw [scanBatch_files] at h
  obtain ⟨source, -, rfl⟩ := List.mem_map.mp h
  exact s.countsFindings_scanRow around source

/-- The totals of a batch are those of its rows. -/
theorem scanBatch_addsUp :
    (s.scanBatch around stop sources).1.AddsUp sources.length s.settings.timePerFix := by
  have hcounts := fun r (hr : r ∈ (s.scanBatch around stop sources).1.files) =>
    s.countsFindings_of_mem_scanBatch around stop sources hr
  have hbiased := congrArg List.sum (List.map_congr_left fun r hr => (hcounts r hr).biasedElements)
  have htimes := congrArg List.sum (List.map_congr_left fun r hr =>
    (hcounts r hr).estimatedFixTime.trans (congrArg _ (hcounts r hr).biasedElements.symm))
  rw [List.sum_map_mul_left] at htimes
  exact ⟨rfl, rfl, hbiased, htimes⟩

/-- A batch that is not stopped has one row for each source, in their order: the report of its scan, or one
with nothing counted, its name, its place and the wording of the error. So the rows of two batches in a row
are those of both, whether the scanner starts anew or goes on; and the totals are those of the rows. -/
theorem scanBatch_never_rows (more : List Source) :
    ((s.scanBatch around never sources).1.files =
        sources.map fun source =>
          match s.scanSource around source with
          | .ok report => report
          | .error e =>
            { path := source.displayPath
              name := source.name
              language := "text".toList
              totalElements := 0
              biasedElements := 0
              biasPercentage := .binary (Number.Binary.zero false)
              estimatedFixTime := 0
              findings := []
              lastScanned := around.now
              error := e.message }) ∧
      ((s.scanBatch around never (sources ++ more)).1.files =
          (s.scanBatch around never sources).1.files ++ (s.scanBatch around never more).1.files ∧
        ((s.scanBatch around never sources).2.scanBatch around never more).1.files =
          (s.scanBatch around never more).1.files) ∧
      (s.scanBatch around never sources).1.AddsUp sources.length s.settings.timePerFix ∧
      (s.scanBatch around never sources).1.files.length = sources.length := by
  simp only [scanBatch_never_files]
  refine ⟨?_, ⟨List.map_append, rfl⟩, s.scanBatch_addsUp around never sources, List.length_map _⟩
  apply List.map_congr_left
  intro source _
  rw [scanRow]
  cases s.scanSource around source <;> rfl

/-! ## Failures -/

/-- The source with its error, if its scan fails. -/
def fault? (s : Scanner) (around : Surroundings) (source : Source) : Option (Source × ScanError) :=
  match s.scanSource around source with
  | .ok _ => none
  | .error e => some (source, e)

/-- The sources whose scans fail, with their errors. -/
def faults (s : Scanner) (around : Surroundings) (sources : List Source) : List (Source × ScanError) :=
  sources.filterMap (s.fault? around)

/-- The row of a source whose scan failed. -/
def faultRow (around : Surroundings) (fault : Source × ScanError) : FileReport :=
  failedReport around.now fault.1 fault.2

/-- A source either has a report without an error, or a fault. -/
theorem scanRow_cases :
    (∃ report, s.fault? around source = none ∧ s.scanRow around source = (report, false) ∧
        report.hasError = false) ∨
      ∃ e, s.scanSource around source = .error e ∧ s.fault? around source = some (source, e) ∧
        s.scanRow around source = (faultRow around (source, e), true) := by
  unfold fault? scanRow
  cases hscan : s.scanSource around source with
  | ok report =>
    obtain ⟨-, herror⟩ := countsFindings_of_scanSource s around source hscan
    refine Or.inl ⟨report, rfl, rfl, ?_⟩
    rw [FileReport.hasError, herror]
    rfl
  | error e => exact Or.inr ⟨e, rfl, rfl, rfl⟩

/-- The faults are those of the sources whose scan gives an error. -/
theorem mem_faults_iff {fault : Source × ScanError} :
    fault ∈ s.faults around sources ↔
      fault.1 ∈ sources ∧ s.scanSource around fault.1 = .error fault.2 := by
  rw [faults, List.mem_filterMap]
  constructor
  · rintro ⟨source, hsource, hfault⟩
    rcases s.scanRow_cases around source with ⟨report, hnone, -⟩ | ⟨e, hscan, hsome, -⟩
    · rw [hnone] at hfault
      cases hfault
    · rw [hsome] at hfault
      cases hfault
      exact ⟨hsource, hscan⟩
  · rintro ⟨hsource, hscan⟩
    refine ⟨fault.1, hsource, ?_⟩
    rw [fault?, hscan]

theorem countP_scanRow :
    (sources.map (s.scanRow around)).countP (·.2) = (s.faults around sources).length := by
  unfold faults
  induction sources with
  | nil => rfl
  | cons source rest ih =>
    rw [List.map_cons, List.countP_cons, ih]
    rcases s.scanRow_cases around source with ⟨report, hfault, hrow, -⟩ | ⟨e, -, hfault, hrow⟩
    · rw [hrow, List.filterMap_cons_none hfault]
      rfl
    · rw [hrow, List.filterMap_cons_some hfault]
      rfl

/-- The row of a fault names an error unless a parser gave up without a word. -/
theorem hasError_faultRow (fault : Source × ScanError) :
    (faultRow around fault).hasError = decide (fault.2 ≠ .parserGaveUp []) :=
  decide_eq_decide.mpr (not_congr ScanError.message_eq_nil_iff)

/-- The rows that name an error are those of the faults in which no parser gave up without a word. -/
theorem filter_hasError_rows :
    (sources.map fun source => (s.scanRow around source).1).filter (·.hasError) =
      ((s.faults around sources).filter fun fault => fault.2 ≠ .parserGaveUp []).map
        (faultRow around) := by
  unfold faults
  induction sources with
  | nil => rfl
  | cons source rest ih =>
    rw [List.map_cons, List.filter_cons, ih]
    rcases s.scanRow_cases around source with ⟨report, hfault, hrow, herror⟩ | ⟨e, -, hfault, hrow⟩
    · rw [hrow, List.filterMap_cons_none hfault, herror]
      rfl
    · rw [hrow, List.filterMap_cons_some hfault, List.filter_cons, hasError_faultRow]
      split <;> rfl

/-- A batch ends as partially failed exactly when a scan of a source that it comes to fails. -/
theorem scanBatch_state :
    (s.scanBatch around stop sources).2.state =
      if s.faults around (reached stop 0 sources) = [] then .completed else .partiallyFailed := by
  simp only [scanBatch, endBatch, scanRows_eq_map, scanRow_beginBatch, countP_scanRow, List.length_eq_zero_iff]

/-- A batch lists the faults of the sources that it comes to but those in which a parser gave up without a
word. -/
theorem scanBatch_failedFiles :
    (s.scanBatch around stop sources).1.failedFiles =
      ((s.faults around (reached stop 0 sources)).filter fun fault => fault.2 ≠ .parserGaveUp []).map
        (faultRow around) := by
  rw [BatchReport.failedFiles, scanBatch_files, filter_hasError_rows]

/-- Only a parser of the catalog gives up on a source. -/
theorem exists_parser_of_gaveUp {s : Scanner} {around : Surroundings} {source : Source} {message : Text}
    (h : s.scanSource around source = .error (.parserGaveUp message)) :
    ∃ parser ∈ s.catalog.parsers, ∃ content, parser.parse content = .error message := by
  obtain hread | ⟨content, -, hscan⟩ := Attempt.bind_eq_error_iff.mp h
  · exact absurd hread (source.read_ne_gaveUp around.disk message)
  · unfold scanContent at hscan
    split at hscan
    · cases hscan
    · dsimp only at hscan
      split at hscan
      next => cases hscan
      next parser hparser =>
        split at hscan
        next gaveUp hparse =>
          cases hscan
          exact ⟨parser, List.mem_of_find?_eq_some hparser, content, hparse⟩
        next => cases hscan

/-- That a batch lists exactly the rows of the sources whose scans fail, and ends as partially failed exactly
when it lists one. -/
structure TellsFaults (s : Scanner) (around : Surroundings) (stop : Nat → Bool) (sources : List Source) :
    Prop where
  failedFiles_eq : (s.scanBatch around stop sources).1.failedFiles =
    (s.faults around (reached stop 0 sources)).map (faultRow around)
  state_eq : (s.scanBatch around stop sources).2.state =
    if (s.scanBatch around stop sources).1.failedFiles = [] then .completed else .partiallyFailed

/-- A batch tells its faults exactly when in none of them a parser gave up without a word. -/
theorem tellsFaults_iff :
    TellsFaults s around stop sources ↔
      ∀ fault ∈ s.faults around (reached stop 0 sources), fault.2 ≠ .parserGaveUp [] := by
  constructor
  · intro h
    have hlengths := congrArg List.length ((scanBatch_failedFiles s around stop sources).symm.trans
      h.failedFiles_eq)
    rw [List.length_map, List.length_map, List.length_filter_eq_length_iff] at hlengths
    intro fault hfault
    exact of_decide_eq_true (hlengths fault hfault)
  · intro hworded
    have hall := List.filter_eq_self.mpr fun fault hfault => decide_eq_true (hworded fault hfault)
    have hfiles := s.scanBatch_failedFiles around stop sources
    rw [hall] at hfiles
    refine ⟨hfiles, ?_⟩
    rw [scanBatch_state, hfiles]
    simp only [List.map_eq_nil_iff]

/-- A batch tells its faults if no parser of the catalog gives up without a word. -/
theorem tellsFaults_of_parsers
    (h : ∀ parser ∈ s.catalog.parsers, ∀ content, parser.parse content ≠ .error []) :
    TellsFaults s around stop sources := by
  apply (tellsFaults_iff s around stop sources).mpr
  intro fault hfault hwordless
  have hscan := ((mem_faults_iff s around _).mp hfault).2
  rw [hwordless] at hscan
  obtain ⟨parser, hparser, content, hparse⟩ := exists_parser_of_gaveUp hscan
  exact h parser hparser content hparse

/-- A batch ends as partially failed exactly when a scan of a source that it comes to fails, and lists the
failures in which something was said. So it tells its faults exactly when no parser gave up on them without a
word, which is so whenever no parser of the catalog ever does. -/
theorem failures_of_scanBatch :
    (s.scanBatch around stop sources).2.state =
        (if s.faults around (reached stop 0 sources) = [] then .completed else .partiallyFailed) ∧
      (s.scanBatch around stop sources).1.failedFiles =
        ((s.faults around (reached stop 0 sources)).filter fun fault =>
          fault.2 ≠ .parserGaveUp []).map (faultRow around) ∧
      (TellsFaults s around stop sources ↔
        ∀ fault ∈ s.faults around (reached stop 0 sources), fault.2 ≠ .parserGaveUp []) ∧
      ((∀ parser ∈ s.catalog.parsers, ∀ content, parser.parse content ≠ .error []) →
        TellsFaults s around stop sources) :=
  ⟨s.scanBatch_state around stop sources, s.scanBatch_failedFiles around stop sources,
    tellsFaults_iff s around stop sources, tellsFaults_of_parsers s around stop sources⟩

/-- A batch with a source that has nothing to read tells of it. -/
theorem failures_of_scanBatch_nothingToRead :
    ((Scanner.new Settings.builtin ⟨[.javaScript]⟩ 100 []).scanBatch ⟨⟨.folder [], []⟩, .whole 0⟩ never
        [⟨"a.js".toList, some "x".toList, none⟩, ⟨"b.js".toList, none, none⟩]).2.state =
      .partiallyFailed ∧
    TellsFaults (Scanner.new Settings.builtin ⟨[.javaScript]⟩ 100 []) ⟨⟨.folder [], []⟩, .whole 0⟩ never
      [⟨"a.js".toList, some "x".toList, none⟩, ⟨"b.js".toList, none, none⟩] := by
  obtain ⟨hstate, -, -, htells⟩ :=
    failures_of_scanBatch (Scanner.new Settings.builtin ⟨[.javaScript]⟩ 100 []) ⟨⟨.folder [], []⟩, .whole 0⟩
      never [⟨"a.js".toList, some "x".toList, none⟩, ⟨"b.js".toList, none, none⟩]
  refine ⟨?_, htells ?_⟩
  · rw [hstate]
    decide
  · intro parser hparser content
    obtain rfl := List.mem_singleton.mp hparser
    exact nofun

/-- A parser that always gives up without a word. -/
def wordless : Parser := ⟨"javascript".toList, [".js".toList], fun _ => .error []⟩

/-- A batch whose only source makes a parser give up without a word ends as partially failed and lists no
failure. -/
theorem failures_of_scanBatch_wordless :
    ((Scanner.new Settings.builtin ⟨[wordless]⟩ 100 []).scanBatch ⟨⟨.folder [], []⟩, .whole 0⟩ never
        [⟨"a.js".toList, some "x".toList, none⟩]).2.state = .partiallyFailed ∧
      ((Scanner.new Settings.builtin ⟨[wordless]⟩ 100 []).scanBatch ⟨⟨.folder [], []⟩, .whole 0⟩ never
        [⟨"a.js".toList, some "x".toList, none⟩]).1.failedFiles = [] ∧
      (Scanner.new Settings.builtin ⟨[wordless]⟩ 100 []).scanSource ⟨⟨.folder [], []⟩, .whole 0⟩
        ⟨"a.js".toList, some "x".toList, none⟩ = .error (.parserGaveUp []) := by
  refine ⟨?_, ?_, ?_⟩
  · decide
  · decide
  · rfl

end Scanner

end Wording
