import Mathlib.Algebra.Order.BigOperators.Group.List
import Wording.Plain.Platform
import Wording.Proofs.Command.Outcome
import Wording.Proofs.Console.Markup
import Wording.Proofs.Export.Agreement
import Wording.Proofs.Text.Utf8

/-!
What a run of the scan command tells, whatever it shows, on every platform. Requests that differ in what they show of
the files come to the same report; what they show of it stands above the same summary, and the exit code is read from
the report alone. A document is the same text on the output and in a file, where its bytes are those of the text; the
output has what the platform makes of it.

Two premises on the platform are named, and each is a field of what is concluded, not a hypothesis of the whole. The
first, `PrintsMarkup`, is that a console prints whatever is well-formed. It prints all that is handed to it of a report
whose counts are not too long and whose terms hold no markup, so that runs which show different files of such a report
end alike, even where the time of the batch is too long to be written: the text of a time is missing in some row only if
it is missing in the summary, which all of them print in the end. The second, `EchoesPlainText`, is that a text without
the escape character is printed as it is. No such character stands in JSON; it can stand in the other documents, which
quote the lines of files as they are, and these a platform may print without it.
-/

set_option autoImplicit false

namespace Wording

open Attempt (FailsWith)

/-! ## Reports of scans -/

theorem BatchReport.AddsUp.findings_le {b : BatchReport} {sources : Nat} {timePerFix : Int}
    (h : b.AddsUp sources timePerFix) {r : FileReport} (hr : r ∈ b.files) :
    (r.findings.length : Int) ≤ b.totalOccurrences := by
  rw [h.totalOccurrences_eq]
  refine List.single_le_sum ?_ _ (List.mem_map_of_mem hr)
  rintro _ hn
  obtain ⟨r, -, rfl⟩ := List.mem_map.mp hn
  exact Int.natCast_nonneg _

/-- A batch has a positive total if some file has a finding. -/
theorem BatchReport.AddsUp.pos_iff {b : BatchReport} {sources : Nat} {timePerFix : Int}
    (h : b.AddsUp sources timePerFix) : 0 < b.totalOccurrences ↔ ∃ r ∈ b.files, r.findings ≠ [] := by
  constructor
  · intro hpositive
    by_contra hnone
    have hzero : (b.files.map fun r => (r.findings.length : Int)).sum = 0 := by
      refine List.sum_eq_zero fun n hn => ?_
      obtain ⟨r, hr, rfl⟩ := List.mem_map.mp hn
      rw [by_contra fun hfound => hnone ⟨r, hr, hfound⟩, List.length_nil, Int.natCast_zero]
    rw [h.totalOccurrences_eq, hzero] at hpositive
    exact absurd hpositive (Int.lt_irrefl 0)
  · rintro ⟨r, hr, hfound⟩
    have hle := h.findings_le hr
    have hpositive := List.length_pos_iff.mpr hfound
    omega

namespace Command

variable {p : Platform} {around : Surroundings} {e : Environment} {named : Option Text} {r r' : ScanRequest}
  {b : BatchReport}

/-! ## Runs that scan -/

/-- That a configuration loads under which the scan that a request asks for makes a report. -/
def Scans (p : Platform) (around : Surroundings) (e : Environment) (named : Option Text) (r : ScanRequest)
    (b : BatchReport) : Prop :=
  ∃ c s next, p.load around.disk e named = .ok c ∧ r.scanner c = .ok s ∧ s.scanPaths around r.paths = .ok (b, next)

/-- A run that scans shows its report. -/
theorem runScan_eq_outcome (h : Scans p around e named r b) :
    runScan p around e named r = (r.outcome p around b).mapError .raise := by
  obtain ⟨c, s, next, hload, hscanner, hscan⟩ := h
  rw [runScan_of_load hload, carryOut_of_scanner hscanner, scanAndShow_of_scan hscan]

/-- Runs for the same scan both come to its report, or end the same way without one. -/
theorem runScan_eq_or_scans (hscanner : r'.scanner = r.scanner) (hpaths : r'.paths = r.paths) :
    runScan p around e named r' = runScan p around e named r ∨
      ∃ b, Scans p around e named r b ∧ Scans p around e named r' b := by
  cases hload : p.load around.disk e named with
  | error stop => exact .inl (by rw [runScan_of_load_error hload, runScan_of_load_error hload])
  | ok c =>
    cases hsettings : r.scanner c with
    | error reason =>
      left
      rw [runScan_of_load hload, runScan_of_load hload, carryOut_of_scanner_error hsettings,
        carryOut_of_scanner_error (hscanner ▸ hsettings)]
    | ok s =>
      have hsettings' : r'.scanner c = .ok s := hscanner ▸ hsettings
      cases hscan : s.scanPaths around r.paths with
      | error fault =>
        left
        rw [runScan_of_load hload, runScan_of_load hload, carryOut_of_scanner hsettings, carryOut_of_scanner hsettings',
          scanAndShow_of_scan_error hscan, scanAndShow_of_scan_error (hpaths ▸ hscan)]
      | ok scanned =>
        obtain ⟨b, next⟩ := scanned
        exact .inr ⟨b, ⟨c, s, next, hload, hsettings, hscan⟩, ⟨c, s, next, hload, hsettings', hpaths ▸ hscan⟩⟩

/-- The report of a scan is that of a batch, by a scanner with the built-in parsers. -/
theorem Scans.exists_batch (h : Scans p around e named r b) :
    ∃ (s : Scanner) (sources : List Source), s.catalog = .builtin ∧
      b = (s.scanBatch around Scanner.never sources).1 := by
  obtain ⟨c, s, next, -, hscanner, hscan⟩ := h
  obtain ⟨settings, -, ⟨⟩⟩ := Attempt.bind_eq_ok_iff.mp hscanner
  obtain ⟨files, -, hbatch⟩ := Attempt.bind_eq_ok_iff.mp hscan
  refine ⟨.new settings .builtin c.sizeLimit r.excluded, files.map Source.ofPath, rfl, ?_⟩
  exact (congrArg Prod.fst (Except.ok.inj hbatch)).symm

/-- The exit code for the report of a scan is one exactly if a file has a finding. -/
theorem Scans.exitCode_eq_one_iff (h : Scans p around e named r b) :
    ScanRequest.exitCode b = 1 ↔ ∃ report ∈ b.files, report.findings ≠ [] := by
  obtain ⟨s, sources, -, rfl⟩ := h.exists_batch
  rw [← (s.scanBatch_addsUp around Scanner.never sources).pos_iff, ScanRequest.exitCode]
  split <;> simp only [*, reduceCtorEq]

/-! ## Tables -/

/-- That a console prints whatever is well-formed. -/
def Platform.PrintsMarkup (p : Platform) : Prop :=
  ∀ channel what, what.IsWellFormed p.escape → ∃ bytes, p.print channel what = .ok bytes

/-- That nothing is out of the ordinary in a report: its counts and places have few enough digits to be written, and the
words of its terms hold no markup. The time of the batch is left out of this, as a configuration can make it as long as
it likes. -/
structure IsOrdinary (escape : Text → Text) (b : BatchReport) : Prop where
  scannedFiles : Text.isWritable b.scannedFiles = true
  totalFiles : Text.isWritable b.totalFiles = true
  totalOccurrences : Text.isWritable b.totalOccurrences = true
  totalElements : ∀ report ∈ b.files, Text.isWritable report.totalElements = true
  places : ∀ report ∈ b.files, ∀ f ∈ report.findings, f.HasWritablePlace
  terms : ∀ report ∈ b.files, ∀ f ∈ report.findings, Console.HasPlainWords escape f.term

/-- That a fault is that of a time of a batch that is too long. -/
def IsOfLongTime (b : BatchReport) (fault : ExportError) : Prop :=
  fault = .unwritable .tooManyDigits ∧ ¬ ∃ t, durationText b.estimatedTotalTime = .ok t

/-- A time between none and that of the batch is too long only if that of the batch is. -/
theorem failsWith_secondsText {seconds : Int} (h : 0 ≤ seconds) (hle : seconds ≤ b.estimatedTotalTime) :
    FailsWith (IsOfLongTime b) (Console.secondsText seconds) := by
  refine Attempt.failsWith_mapError_iff.mpr fun why hwhy => ⟨?_, fun htext => ?_⟩
  · rw [failsWith_durationText seconds why hwhy]
  · obtain ⟨t, ht⟩ := exists_durationText_of_le h hle htext
    rw [ht] at hwhy
    cases hwhy

/-- An ordinary report of a scan can be shown, but for its time. -/
theorem Scans.canBeShown {escape : Text → Text} (h : Scans p around e named r b) (hordinary : IsOrdinary escape b) :
    Console.BatchCanBeShown escape (IsOfLongTime b) b := by
  obtain ⟨s, sources, hcatalog, rfl⟩ := h.exists_batch
  have hadds := s.scanBatch_addsUp around Scanner.never sources
  have hpositive := s.settings.positive
  have hlanguages : ∀ language ∈ Catalog.plainText :: Catalog.builtin.languages, Console.IsPlain language := by decide
  refine ⟨fun report hreport => ?_, hordinary.scannedFiles, hordinary.totalFiles, hordinary.totalOccurrences,
    ⟨_, rfl⟩, failsWith_secondsText ?_ (Int.le_refl _)⟩
  · have hcounts := s.countsFindings_of_mem_scanBatch around Scanner.never sources hreport
    have hbiased := hcounts.biasedElements
    have hle := hadds.findings_le hreport
    exact
      { language := hlanguages _ (List.mem_cons.mpr (hcatalog ▸ hcounts.language))
        share := hcounts.share.elim fun _ hshare => ⟨_, hshare⟩
        totalElements := hordinary.totalElements report hreport
        biasedElements := Text.isWritable_of_natAbs_le (by omega) hordinary.totalOccurrences
        places := hordinary.places report hreport
        terms := hordinary.terms report hreport
        time := failsWith_secondsText
          (by rw [hcounts.estimatedFixTime]; exact Int.mul_nonneg hpositive.le (Int.natCast_nonneg _))
          (by
            rw [hcounts.estimatedFixTime, hadds.estimatedTotalTime_eq]
            exact Int.mul_le_mul_of_nonneg_left hle hpositive.le) }
  · rw [hadds.estimatedTotalTime_eq]
    refine Int.mul_nonneg hpositive.le ?_
    rw [hadds.totalOccurrences_eq]
    refine List.sum_nonneg fun n hn => ?_
    obtain ⟨report, -, rfl⟩ := List.mem_map.mp hn
    exact Int.natCast_nonneg _

/-- All that is handed over of a report that can be shown is sound, whatever is selected of it. -/
theorem isSound_of_mem_tables {escape : Text → Text} {allowed : ExportError → Prop}
    (h : Console.BatchCanBeShown escape allowed b) (r : ScanRequest) {making : Console.Making}
    (hmaking : making ∈ r.tables escape b) : Console.IsSound escape allowed making := by
  have hshown : ∀ report ∈ r.selection.apply b.files, Console.CanBeShown escape allowed report := by
    intro report hreport
    rw [Selection.apply, List.mem_mergeSort] at hreport
    exact h.files report (List.mem_of_mem_filter hreport)
  simp only [ScanRequest.tables, List.cons_append, List.mem_cons, List.mem_append] at hmaking
  obtain hfiles | hdetails | hsummary := hmaking
  · rw [hfiles]
    exact Console.isSound_files hshown
  · split at hdetails
    · obtain ⟨report, hreport, hmaking⟩ := List.mem_flatMap.mp hdetails
      exact Console.isSound_details (hshown report hreport) hmaking
    · cases hdetails
  · exact Console.isSound_summary h hsummary

theorem failsWith_printed_of_isSound (hprints : p.PrintsMarkup) {allowed : ExportError → Prop} {channel : Channel}
    {making : Console.Making} (h : Console.IsSound p.escape allowed making) :
    FailsWith (fun fault => ∃ why, allowed why ∧ fault = .report why) (p.printed channel making) := by
  refine Attempt.failsWith_bind_iff.mpr ⟨?_, fun what hwhat => ?_⟩
  · exact Attempt.failsWith_mapError_iff.mpr fun why hwhy => ⟨why, h.failsWith why hwhy, rfl⟩
  · obtain ⟨bytes, hbytes⟩ := hprints channel what (h.wellFormed what (Attempt.mapError_eq_ok_iff.mp hwhat))
    rw [hbytes]
    exact Attempt.failsWith_ok _

/-- The time of the batch is told in the end, whatever is selected. -/
theorem time_mem_tables (escape : Text → Text) (r : ScanRequest) (b : BatchReport) :
    Console.textOf ((Console.secondsText b.estimatedTotalTime).map fun t => "Estimated fix time: ".toList ++ t) ∈
      r.tables escape b := by
  simp only [ScanRequest.tables, Console.summary, List.mem_append, List.mem_cons, true_or, or_true]

/-- The end of a run that shows an ordinary report as tables. -/
def tablesEnding (b : BatchReport) : Ending :=
  match durationText b.estimatedTotalTime with
  | .ok _ => .exit (ScanRequest.exitCode b)
  | .error why => .raised (.report (.unwritable why))

/-- Every run that shows an ordinary report as tables ends alike, whatever is selected of it: no text can be missing but
that of a time, and if one is, then that of the batch is, which all of them tell. -/
theorem ending_tables (hprints : p.PrintsMarkup) (hscans : Scans p around e named r b)
    (hordinary : IsOrdinary p.escape b) (r' : ScanRequest) :
    (p.printAll .messages (r'.tables p.escape b)).ending (ScanRequest.exitCode b) = tablesEnding b := by
  have hsound : ∀ making ∈ r'.tables p.escape b,
      FailsWith (fun fault => ∃ why, IsOfLongTime b why ∧ fault = .report why) (p.printed .messages making) :=
    fun making hmaking =>
      failsWith_printed_of_isSound hprints (isSound_of_mem_tables (hscans.canBeShown hordinary) r' hmaking)
  unfold tablesEnding
  cases htime : durationText b.estimatedTotalTime with
  | ok t =>
    refine ending_eq_exit_iff.mpr ⟨printAll_fault_eq_none_iff.mpr fun making hmaking => ?_, rfl⟩
    cases hprinted : p.printed .messages making with
    | ok bytes => exact ⟨bytes, hprinted⟩
    | error fault =>
      obtain ⟨_, ⟨-, hlong⟩, -⟩ := hsound making hmaking fault hprinted
      exact absurd ⟨t, htime⟩ hlong
  | error why =>
    have hwhy : why = .tooManyDigits := failsWith_durationText _ why htime
    refine ending_eq_raised_iff.mpr (printAll_fault_eq_some (fun making hmaking other hother => ?_) ?_)
    · obtain ⟨_, ⟨rfl, -⟩, rfl⟩ := hsound making hmaking other hother
      rw [hwhy]
    · refine ⟨_, time_mem_tables p.escape r' b, ?_⟩
      rw [Console.secondsText, htime]
      rfl

/-- That a run, if it ends in good order, ends with the exit code of a report and the summary of it, whatever stands
above that. -/
def EndsWithSummary (p : Platform) (b : BatchReport) (o : Outcome) : Prop :=
  ∀ code, o.ending = .exit code → code = ScanRequest.exitCode b ∧
    ∃ above below, p.printAll .messages (Console.summary b) = ⟨below, none⟩ ∧ o.messages = above ++ below

/-- Every run that shows a report as tables ends with its summary. -/
theorem endsWithSummary_outcome (hformat : r.format = .table) :
    EndsWithSummary p b (p.settle ((r.outcome p around b).mapError .raise)) := by
  rw [ScanRequest.outcome, hformat]
  intro code hcode
  obtain ⟨hfault, hexit⟩ := ending_eq_exit_iff.mp hcode
  refine ⟨hexit.symm, ?_⟩
  have hprinted := printAll_fault_eq_none_iff.mp hfault
  rw [ScanRequest.tables, List.forall_mem_append] at hprinted
  have happend := printAll_append (printAll_fault_eq_none_iff.mpr hprinted.1) (Console.summary b)
  have hsummary := printAll_fault_eq_none_iff.mpr hprinted.2
  refine ⟨_, (p.printAll .messages (Console.summary b)).bytes, ?_, congrArg Printing.bytes happend⟩
  rw [← hsummary]

/-! ## Documents -/

/-- That a text is printed as it is, if the escape character does not stand in it: only with that character are styles
told to a terminal. -/
def Platform.EchoesPlainText (p : Platform) : Prop :=
  ∀ t : Text, '\x1b' ∉ t → p.echo t = .ok (Text.encodeUtf8 (t ++ ['\n']))

/-- That one run prints the document of a report which another run writes to a path. Either there is none, and both fail
for that reason; or the bytes of its text are written, with a line feed behind them, and what the platform makes of it
is printed. That is the same if it echoes the text as it is. No escape character stands in JSON. -/
structure PrintsAndWrites (p : Platform) (kind : Export.Kind) (b : BatchReport) (path : Text)
    (printed written : Outcome) : Prop where
  fails : ∀ fault, kind.document b = .error fault →
    printed.ending = .raised (.report fault) ∧ written.ending = .raised (.report fault)
  writes : ∀ t, kind.document b = .ok t → written.document = some ⟨path, Text.encodeUtf8 (t ++ ['\n'])⟩
  prints : ∀ t bytes, kind.document b = .ok t → p.echo t = .ok bytes →
    printed.output = bytes ∧ printed.ending = .exit (ScanRequest.exitCode b)
  same : p.EchoesPlainText → ∀ t, kind.document b = .ok t → '\x1b' ∉ t →
    written.document = some ⟨path, printed.output⟩ ∧ printed.ending = .exit (ScanRequest.exitCode b)
  plain : kind = .json → ∀ t, kind.document b = .ok t → '\x1b' ∉ t
  told : p.PrintsMarkup → ∀ t, kind.document b = .ok t → written.ending = .exit (ScanRequest.exitCode b)

theorem escape_notMem_json {t : Text} (h : Export.Kind.json.document b = .ok t) : '\x1b' ∉ t :=
  fun hmem => absurd (Export.isPlainAscii_of_batchJson h _ hmem) (by decide)

theorem isWellFormed_writtenText {escape : Text → Text} (kind : Export.Kind) (path : Text) :
    (Console.Printout.text (ScanRequest.writtenText escape kind path)).IsWellFormed escape := by
  have hkind : Console.IsPlain ("Wrote ".toList ++ kind.text ++ " export to ".toList) := by cases kind <;> decide
  exact .gap hkind (Console.isMarkup_styled (by decide) (.inr ⟨_, rfl⟩))

section Document

variable {kind : Export.Kind} {t : Text}

theorem outcome_of_no_document (hformat : r.format = .document kind) {fault : ExportError}
    (h : kind.document b = .error fault) : r.outcome p around b = .error (.report fault) := by
  rw [ScanRequest.outcome, hformat]
  dsimp only
  rw [ScanRequest.documentOutcome, h]
  rfl

theorem outcome_printed (hformat : r.format = .document kind) (h : kind.document b = .ok t) (hprints : r.output = [])
    {bytes : List UInt8} (hecho : p.echo t = .ok bytes) :
    r.outcome p around b = .ok { ending := .exit (ScanRequest.exitCode b), output := bytes } := by
  rw [ScanRequest.outcome, hformat]
  dsimp only
  rw [ScanRequest.documentOutcome, h]
  simp only [Except.mapError, bind, Except.bind, if_pos hprints, hecho, pure, Except.pure]

theorem outcome_written (hformat : r.format = .document kind) (h : kind.document b = .ok t) (hwrites : r.output ≠ [])
    {path : Text} (hpath : ScanRequest.documentPath around kind r.output = .ok path)
    (hwritable : around.disk.writeFault? path = none) :
    r.outcome p around b =
      let printing := p.printAll .messages [.ok (.text (ScanRequest.writtenText p.escape kind path))]
      .ok
        { ending := printing.ending (ScanRequest.exitCode b)
          messages := printing.bytes
          document := some ⟨path, Text.encodeUtf8 (t ++ ['\n'])⟩ } := by
  rw [ScanRequest.outcome, hformat]
  dsimp only
  rw [ScanRequest.documentOutcome, h]
  simp only [Except.mapError, bind, Except.bind, if_neg hwrites, hpath, hwritable, pure, Except.pure]

/-- Without an output and with a file that can be written, a report is printed and written as a document. -/
theorem printsAndWrites_outcome (hformat : r.format = .document kind) (hformat' : r'.format = .document kind)
    (hprints : r.output = []) (hwrites : r'.output ≠ []) {path : Text}
    (hpath : ScanRequest.documentPath around kind r'.output = .ok path)
    (hwritable : around.disk.writeFault? path = none) :
    PrintsAndWrites p kind b path (p.settle ((r.outcome p around b).mapError .raise))
      (p.settle ((r'.outcome p around b).mapError .raise)) where
  fails fault h := by
    rw [outcome_of_no_document hformat h, outcome_of_no_document hformat' h]
    exact ⟨rfl, rfl⟩
  writes t h := by
    rw [outcome_written hformat' h hwrites hpath hwritable]
    rfl
  prints t bytes h hecho := by
    rw [outcome_printed hformat h hprints hecho]
    exact ⟨rfl, rfl⟩
  same hechoes t h hplain := by
    rw [outcome_written hformat' h hwrites hpath hwritable, outcome_printed hformat h hprints (hechoes t hplain)]
    exact ⟨rfl, rfl⟩
  plain hkind t h := by
    subst hkind
    exact escape_notMem_json h
  told hmarkup t h := by
    rw [outcome_written hformat' h hwrites hpath hwritable]
    refine ending_eq_exit_iff.mpr ⟨printAll_fault_eq_none_iff.mpr (List.forall_mem_singleton.mpr ?_), rfl⟩
    obtain ⟨bytes, hbytes⟩ := hmarkup .messages _ (isWellFormed_writtenText kind path)
    exact ⟨bytes, printed_eq_ok_iff.mpr ⟨_, rfl, hbytes⟩⟩

end Document

/-- A document that is shown in good order leaves the exit code of its report. -/
theorem code_of_documentOutcome {kind : Export.Kind} {o : Outcome} {code : Nat}
    (h : r.documentOutcome p around kind b = .ok o) (hcode : o.ending = .exit code) :
    code = ScanRequest.exitCode b := by
  obtain ⟨t, -, h⟩ := Attempt.bind_eq_ok_iff.mp h
  split at h
  · obtain ⟨bytes, -, ⟨⟩⟩ := Attempt.bind_eq_ok_iff.mp h
    exact (Ending.exit.inj hcode).symm
  · obtain ⟨path, -, h⟩ := Attempt.bind_eq_ok_iff.mp h
    split at h
    · cases h
    · cases h
      exact (ending_eq_exit_iff.mp hcode).2.symm

/-- A run that comes to a report and ends in good order ends with the exit code of it. -/
theorem code_of_outcome {code : Nat} (h : (p.settle ((r.outcome p around b).mapError .raise)).ending = .exit code) :
    code = ScanRequest.exitCode b := by
  cases houtcome : r.outcome p around b with
  | error fault =>
    rw [houtcome] at h
    cases h
  | ok o =>
    rw [houtcome] at h
    rw [ScanRequest.outcome] at houtcome
    split at houtcome
    · cases houtcome
      exact (ending_eq_exit_iff.mp h).2.symm
    · exact code_of_documentOutcome houtcome h

/-! ## Two runs -/

/-- A run for a scan tells the same of it, whatever it shows. Runs that differ only in what they show of the files are
the same, or show the same report as tables; then they end with its exit code and its summary, if they end in good
order, and on a console that prints what is well-formed they end alike, if the report is ordinary. The exit code for a
report is one exactly if a file has a finding. Runs for a document with and without an output that can be written write
and print the same document. -/
theorem verdict_of_run (p : Platform) (around : Surroundings) (e : Environment) {args : List Text}
    (hcall : p.call around.disk e args = .scan named r) :
    (∀ args' selection details,
        p.call around.disk e args' = .scan named { r with selection := selection, details := details } →
        run p around e args' = run p around e args ∨
          r.format = .table ∧ ∃ b, Scans p around e named r b ∧ EndsWithSummary p b (run p around e args) ∧
            EndsWithSummary p b (run p around e args') ∧
            (p.PrintsMarkup → IsOrdinary p.escape b →
              (run p around e args').ending = (run p around e args).ending)) ∧
      ∀ b, Scans p around e named r b →
        (∀ code, (run p around e args).ending = .exit code →
          code = ScanRequest.exitCode b ∧ (code = 1 ↔ ∃ report ∈ b.files, report.findings ≠ [])) ∧
        ∀ kind, r.format = .document kind → r.output = [] →
          ∀ args' output path, p.call around.disk e args' = .scan named { r with output := output } → output ≠ [] →
            ScanRequest.documentPath around kind output = .ok path → around.disk.writeFault? path = none →
            PrintsAndWrites p kind b path (run p around e args) (run p around e args') := by
  have hrun : ∀ {args named r}, p.call around.disk e args = .scan named r →
      run p around e args = p.settle (runScan p around e named r) := by
    intro args named r hcall
    rw [run, hcall]
  refine ⟨fun args' selection details hcall' => ?_, fun b hscans => ⟨fun code hcode => ?_, ?_⟩⟩
  · let r' : ScanRequest := { r with selection := selection, details := details }
    rw [hrun hcall, hrun hcall']
    have hcases : runScan p around e named r' = runScan p around e named r ∨
        ∃ b, Scans p around e named r b ∧ Scans p around e named r' b := runScan_eq_or_scans rfl rfl
    obtain hsame | ⟨b, hscans, hscans'⟩ := hcases
    · exact .inl (congrArg p.settle hsame)
    rw [runScan_eq_outcome hscans, runScan_eq_outcome hscans']
    cases hformat : r.format with
    | table =>
      refine .inr ⟨rfl, b, hscans, endsWithSummary_outcome hformat, endsWithSummary_outcome hformat, ?_⟩
      intro hmarkup hordinary
      rw [ScanRequest.outcome, ScanRequest.outcome, hformat]
      exact (ending_tables hmarkup hscans hordinary r').trans (ending_tables hmarkup hscans hordinary r).symm
    | document kind =>
      left
      rw [ScanRequest.outcome, ScanRequest.outcome, hformat]
      rfl
  · rw [hrun hcall, runScan_eq_outcome hscans] at hcode
    rw [code_of_outcome hcode, hscans.exitCode_eq_one_iff]
    exact ⟨rfl, Iff.rfl⟩
  · intro kind hformat hprints args' output path hcall' hwrites hpath hwritable
    let r' : ScanRequest := { r with output := output }
    have hscans' : Scans p around e named r' b := hscans
    have hformat' : r'.format = .document kind := hformat
    rw [hrun hcall, hrun hcall', runScan_eq_outcome hscans, runScan_eq_outcome hscans']
    exact printsAndWrites_outcome hformat hformat' hprints hwrites hpath hwritable

/-! ### On the plain platform -/

theorem printsMarkup_plain : Plain.platform.PrintsMarkup := fun _ _ _ => ⟨_, rfl⟩

/-- The plain platform echoes a text as it is, unless the escape character stands in it. -/
theorem echoesPlainText_plain : Plain.platform.EchoesPlainText := by
  intro t ht
  have hkept : ∀ (u : Text) before, '\x1b' ∉ u → Plain.Console.styleSequence.replaceFrom before 0 u = u := by
    intro u
    induction u with
    | nil => exact fun _ _ => rfl
    | cons c cs ih =>
      intro before hu
      obtain ⟨hc, hcs⟩ := List.ne_and_not_mem_of_not_mem_cons hu
      have hmiss : Plain.Console.styleSequence before (c :: cs) = none := by
        unfold Plain.Console.styleSequence
        split
        next heq => exact absurd (List.cons.inj heq).1.symm hc
        next => rfl
      rw [Tokens.Pattern.replaceFrom, hmiss]
      exact congrArg (c :: ·) (ih (some c) hcs)
  have hline : '\x1b' ∉ t ++ ['\n'] := by
    rw [List.mem_append, not_or]
    exact ⟨ht, by decide⟩
  exact congrArg (fun u => Except.ok (Text.encodeUtf8 u)) (hkept _ none hline)

/-- A file that prints a word in red. -/
def colouredAround : Surroundings where
  disk := ⟨.folder [("log.py".toList, .file (Text.encodeUtf8 "print('\x1b[31mmaster\x1b[0m')".toList))], []⟩
  now := .whole 0

/-- An environment that only says where the settings are. -/
def settingsElsewhere : Environment := ⟨[("XDG_CONFIG_HOME", "/xdg".toList)], none⟩

/-- The request for a JSON document of the file. -/
def documentRequest : ScanRequest where
  paths := ["log.py".toList]
  format := .document .json

/-- The words for that request, with some more before the path. -/
def documentWords (more : List String) : List Text :=
  (["scan", "--format", "json"] ++ more ++ ["log.py"]).map String.toList

/-- The exit code that a run ends with, if it ends with one. -/
def Ending.code? : Ending → Option Nat
  | .exit code => some code
  | .raised _ => none

theorem Ending.eq_exit_of_code? {ending : Ending} {code : Nat} (h : ending.code? = some code) :
    ending = .exit code := by
  cases ending <;> cases h
  rfl

/-- The JSON document of a file is the same in another order, and in a file it is what is printed. -/
theorem verdict_of_run_coloured :
    ∃ b, Scans Plain.platform colouredAround settingsElsewhere none documentRequest b ∧
      (∃ report ∈ b.files, report.findings ≠ []) ∧
      (run Plain.platform colouredAround settingsElsewhere (documentWords [])).ending = .exit 1 ∧
      run Plain.platform colouredAround settingsElsewhere (documentWords ["--sort", "name", "--details"]) =
        run Plain.platform colouredAround settingsElsewhere (documentWords []) ∧
      (run Plain.platform colouredAround settingsElsewhere (documentWords ["-o", "o.json"])).document =
        some ⟨"o.json".toList, (run Plain.platform colouredAround settingsElsewhere (documentWords [])).output⟩ ∧
      (run Plain.platform colouredAround settingsElsewhere (documentWords ["-o", "o.json"])).ending = .exit 1 := by
  have hasked : (Plain.platform.call colouredAround.disk settingsElsewhere (documentWords [])).asked? =
      some (none, some documentRequest) := by
    decide +kernel
  have hsorted : (Plain.platform.call colouredAround.disk settingsElsewhere
      (documentWords ["--sort", "name", "--details"])).asked? =
        some (none, some { documentRequest with selection := { sortBy := .name }, details := true }) := by
    decide +kernel
  have hwritten : (Plain.platform.call colouredAround.disk settingsElsewhere
      (documentWords ["-o", "o.json"])).asked? =
        some (none, some { documentRequest with output := "o.json".toList }) := by
    decide +kernel
  have hends : (run Plain.platform colouredAround settingsElsewhere (documentWords [])).ending.code? = some 1 := by
    decide +kernel
  have hreport : (Plain.platform.load colouredAround.disk settingsElsewhere none).toOption.map (fun c =>
      (documentRequest.scanner c).toOption.map fun s =>
        (s.scanPaths colouredAround documentRequest.paths).toOption.map fun _ => ()) = some (some (some ())) := by
    decide +kernel
  obtain ⟨c, hload, hreport⟩ := Attempt.exists_eq_ok_of_toOption hreport
  obtain ⟨s, hscanner, hreport⟩ := Attempt.exists_eq_ok_of_toOption hreport
  obtain ⟨⟨b, next⟩, hscan, -⟩ := Attempt.exists_eq_ok_of_toOption hreport
  have hscans : Scans Plain.platform colouredAround settingsElsewhere none documentRequest b :=
    ⟨c, s, next, hload, hscanner, hscan⟩
  obtain ⟨hshown, htold⟩ := verdict_of_run Plain.platform colouredAround settingsElsewhere (eq_scan_of_asked? hasked)
  obtain ⟨hcode, hdocument⟩ := htold b hscans
  have hexit := Ending.eq_exit_of_code? hends
  refine ⟨b, hscans, (hcode 1 hexit).2.mp rfl, hexit, ?_, ?_⟩
  · obtain hsame | ⟨htable, -⟩ := hshown _ _ _ (eq_scan_of_asked? hsorted)
    · exact hsame
    · cases htable
  · have hboth := hdocument .json rfl rfl _ _ _ (eq_scan_of_asked? hwritten) (by decide) rfl (by decide +kernel)
    cases ht : Export.Kind.json.document b with
    | error fault =>
      rw [(hboth.fails fault ht).1] at hexit
      cases hexit
    | ok t =>
      have hone := (hcode 1 hexit).1
      exact ⟨(hboth.same echoesPlainText_plain t ht (hboth.plain rfl t ht)).1,
        hone ▸ hboth.told printsMarkup_plain t ht⟩

/-- The line of a file is written to a document as it is, but printed without its style sequences. -/
theorem run_of_colouredLine :
    ∃ d, (run Plain.platform colouredAround settingsElsewhere
        (["scan", "--format", "detailed-csv", "-o", "o.csv", "log.py"].map String.toList)).document = some d ∧
      (run Plain.platform colouredAround settingsElsewhere
        (["scan", "--format", "detailed-csv", "log.py"].map String.toList)).output ≠ d.bytes := by
  have hwritten : (run Plain.platform colouredAround settingsElsewhere
      (["scan", "--format", "detailed-csv", "-o", "o.csv", "log.py"].map String.toList)).document.map
        (fun d => decide (0x1b ∈ d.bytes)) = some true := by
    decide +kernel
  have hprinted : decide (0x1b ∈ (run Plain.platform colouredAround settingsElsewhere
      (["scan", "--format", "detailed-csv", "log.py"].map String.toList)).output) = false := by
    decide +kernel
  obtain ⟨d, hd, hstyled⟩ := Option.map_eq_some_iff.mp hwritten
  refine ⟨d, hd, fun hsame => ?_⟩
  rw [hsame, hstyled] at hprinted
  cases hprinted

end Command

end Wording
