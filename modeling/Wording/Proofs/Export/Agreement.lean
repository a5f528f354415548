import Wording.Settings.Builtin
import Wording.Proofs.Export.Csv
import Wording.Proofs.Export.Json.Report
import Wording.Proofs.Number.Percentage
import Wording.Proofs.Scan.Batch
import Wording.Proofs.Text.Digits

/-! # The three exports of one batch

File by file, the records of the details that have a line are as many as the summary counts, as the document counts and
as the document lists; and what the files count adds up to the totals of the document. Each number is read from the
export that it stands in, with the reader of that format, so that nothing but the three texts is compared.

A `FileView` holds what the three exports say of one file, and `FileView.Agrees` that it is the same. The views of a
batch exist because each export reads back file by file in the order of the batch (`exists_views`); that they agree is a
count of records on one side (`countP_hasLine_detailRows`) and the counts of a scanned report on the other. An export
fails if an integer in it has too many digits, as the seconds of all findings can if one fix takes long enough.
-/

set_option autoImplicit false

namespace Wording

namespace Export

/-! ## Cells -/

/-- What a record has in the column of a name. -/
def cell? (columns : List Text) (name : String) (record : List Text) : Option Text :=
  ((columns.zip record).find? fun cell => cell.1 = name.toList).map Prod.snd

/-- The whole number that a record has in the column of a name. -/
def wholeCell? (columns : List Text) (name : String) (record : List Text) : Option Int :=
  cell? columns name record >>= fun t => Json.asWhole? (.number t)

/-- Whether a record of the details has the number of a line. -/
def hasLine (record : List Text) : Bool := (cell? detailColumns "Line Number" record).any (· ≠ [])

theorem hasLine_findingRow (r : FileReport) (f : Finding) : hasLine (findingRow r f) = true := by
  have hcell : cell? detailColumns "Line Number" (findingRow r f) = some (Text.ofInt f.line) := rfl
  rw [hasLine, hcell, Option.any_some]
  exact decide_eq_true (Text.ofInt_ne_nil f.line)

/-- The details have as many records with a line as a file has findings. -/
theorem countP_hasLine_detailRows (r : FileReport) : (detailRows r).countP hasLine = r.findings.length := by
  rw [detailRows]
  split
  next hclean =>
    rw [hclean]
    rfl
  next =>
    rw [List.countP_map, List.countP_eq_length]
    exact fun f _ => hasLine_findingRow r f

theorem path_of_mem_detailRows {r : FileReport} {record : List Text} (h : record ∈ detailRows r) :
    cell? detailColumns "File Path" record = some r.path := by
  rw [detailRows] at h
  split at h
  · rw [List.mem_singleton.mp h]
    rfl
  · obtain ⟨f, -, rfl⟩ := List.mem_map.mp h
    rfl

theorem detailRows_ne_nil (r : FileReport) : detailRows r ≠ [] := by
  rw [detailRows]
  split
  · exact List.cons_ne_nil _ _
  next hfound => exact fun h => hfound (List.map_eq_nil_iff.mp h)

/-! ## One file in three exports -/

/-- What the exports say of one file: its records in the details, its record in the summary and its object in the
document. -/
structure FileView where
  details : List (List Text)
  summary : List Text
  document : Json

open Json in
/-- That the exports agree on a file of a path: they count the same number of findings and the same seconds. -/
structure FileView.Agrees (view : FileView) (path : Text) (found seconds : Int) : Prop where
  details_ne_nil : view.details ≠ []
  details_path : ∀ record ∈ view.details, cell? detailColumns "File Path" record = some path
  summary_path : cell? summaryColumns "File Path" view.summary = some path
  document_path : textUnder? view.document "path" = some path
  details_found : view.details.countP hasLine = found
  summary_found : wholeCell? summaryColumns "Biased Elements" view.summary = some found
  document_found : wholeUnder? view.document "biasedElements" = some found
  document_listed : ∃ items, itemsUnder? view.document "occurrences" = some items ∧ items.length = found
  summary_seconds : wholeCell? summaryColumns "Estimated Fix Time (seconds)" view.summary = some seconds
  document_seconds : wholeUnder? view.document "estimatedFixTime" = some seconds

/-- Where the summary tells a file in one record and the document in one object, the exports agree on it. -/
theorem agrees_of_tells {r : FileReport} (hcount : r.biasedElements = r.findings.length) {record : List Text}
    {v : Json} (hrecord : Summarizes r record) (hv : Json.TellsFile v r) :
    (FileView.mk (detailRows r) record v).Agrees r.path r.findings.length r.estimatedFixTime := by
  obtain ⟨share, scanned, -, -, rfl⟩ := hrecord
  obtain ⟨items, hitems, hfindings⟩ := Option.bind_eq_some_iff.mp hv.findings
  have hlisted : items.length = r.findings.length := Attempt.length_of_mapM_eq_some hfindings
  exact
    { details_ne_nil := detailRows_ne_nil r
      details_path := fun record hmem => path_of_mem_detailRows hmem
      summary_path := rfl
      document_path := hv.path
      details_found := by rw [countP_hasLine_detailRows]
      summary_found := by rw [← hcount]; exact Json.asWhole?_ofInt r.biasedElements
      document_found := by rw [hv.biasedElements, hcount]
      document_listed := ⟨items, hitems, by rw [hlisted]⟩
      summary_seconds := Json.asWhole?_ofInt r.estimatedFixTime
      document_seconds := hv.estimatedFixTime }

/-- Where the summary tells some files record by record and the document object by object, the exports agree on each of
them. -/
theorem exists_views {files : List FileReport} (hcounts : ∀ r ∈ files, r.biasedElements = r.findings.length)
    {records : List (List Text)} {items : List Json} (hrecords : List.Forall₂ Summarizes files records)
    (hitems : List.Forall₂ Json.TellsFile items files) :
    ∃ views : List FileView, views.map (·.summary) = records ∧ views.map (·.document) = items ∧
      views.flatMap (·.details) = files.flatMap detailRows ∧
      List.Forall₂ (fun r view => view.Agrees r.path r.findings.length r.estimatedFixTime) files views := by
  induction hrecords generalizing items with
  | nil =>
    rw [List.forall₂_nil_right_iff] at hitems
    exact ⟨[], rfl, hitems.symm, rfl, .nil⟩
  | @cons r record files records hrecord _ ih =>
    obtain ⟨item, rest, hitem, hrest, rfl⟩ := List.forall₂_cons_right_iff.mp hitems
    obtain ⟨hcount, hcounts⟩ := List.forall_mem_cons.mp hcounts
    obtain ⟨views, rfl, rfl, hdetails, hagree⟩ := ih hcounts hrest
    refine ⟨⟨detailRows r, record, item⟩ :: views, rfl, rfl, ?_, .cons (agrees_of_tells hcount hrecord hitem) hagree⟩
    rw [List.flatMap_cons, List.flatMap_cons, hdetails]

/-- Where the integers of a batch can be written, so can those of each of its files, and the places of its findings. -/
theorem isWritable_of_mem_integersOfBatch {b : BatchReport} {r : FileReport} (hr : r ∈ b.files)
    (h : ∀ n ∈ integersOfBatch b, Text.isWritable n = true) :
    (Text.isWritable r.totalElements = true ∧ Text.isWritable r.biasedElements = true ∧
        Text.isWritable r.estimatedFixTime = true) ∧
      ∀ f ∈ r.findings, f.HasWritablePlace := by
  have hfile : ∀ n ∈ integersOfFile r, Text.isWritable n = true := fun n hn => h n (by
    simp only [integersOfBatch, List.mem_append]
    exact .inl (.inl (.inr (List.mem_flatMap.mpr ⟨r, hr, hn⟩))))
  simp only [integersOfFile, List.mem_append, List.mem_cons, List.mem_flatMap] at hfile
  refine ⟨⟨hfile _ (by simp), hfile _ (by simp), hfile _ (by simp)⟩, fun f hf => ⟨?_, ?_⟩⟩
  · exact hfile _ (.inl (.inr ⟨f, hf, .inl rfl⟩))
  · exact hfile _ (.inl (.inr ⟨f, hf, .inr (.inl rfl)⟩))

end Export

open Export

namespace Scanner

variable (s : Scanner) (around : Surroundings) (stop : Nat → Bool) (sources : List Source)

/-- File by file, the exports of a batch agree, whatever became of its files and wherever it was stopped, if no integer
in it has too many digits. The records of a file with a line in the details, the count in its record of the summary, the
count in its object of the document and the findings listed there are equally many. Those of all files add up to the
total of the document, and so do the seconds that the summary gives for the files. -/
theorem exports_of_scanBatch_agree (hnow : around.now.InCalendar)
    (hfew : ∀ r ∈ (s.scanBatch around stop sources).1.files, r.findings.length < 2 ^ 1000)
    (hintegers : ∀ n ∈ integersOfBatch (s.scanBatch around stop sources).1, Text.isWritable n = true) :
    ∃ (summary details : Text) (v : Json) (views : List FileView),
      summaryCsv (s.scanBatch around stop sources).1 = .ok summary ∧
      readTable? summary = some (summaryColumns :: views.map (·.summary)) ∧
      detailCsv (s.scanBatch around stop sources).1 = .ok details ∧
      readTable? details = some (detailColumns :: views.flatMap (·.details)) ∧
      (∀ indent, ∃ text, batchJson indent (s.scanBatch around stop sources).1 = .ok text ∧
        Json.read? text = some v) ∧
      Json.itemsUnder? v "files" = some (views.map (·.document)) ∧
      List.Forall₂ (fun r view => view.Agrees r.path r.findings.length r.estimatedFixTime)
        (s.scanBatch around stop sources).1.files views ∧
      Json.wholeUnder? v "totalOccurrences" =
        some ((s.scanBatch around stop sources).1.files.map fun r => (r.findings.length : Int)).sum ∧
      Json.wholeUnder? v "estimatedTotalTime" =
        some ((s.scanBatch around stop sources).1.files.map (·.estimatedFixTime)).sum := by
  have hfile := fun r (hr : r ∈ (s.scanBatch around stop sources).1.files) =>
    s.countsFindings_of_mem_scanBatch around stop sources hr
  have hshares : ∀ r ∈ (s.scanBatch around stop sources).1.files,
      ∃ x : Number.Binary, r.biasPercentage = .binary x ∧ x.IsFinite := by
    intro r hr
    obtain ⟨total, hshare⟩ := (hfile r hr).share
    rw [hshare]
    exact Number.exists_percentage_eq_finite (hfew r hr) total
  have htimes : ∀ r ∈ (s.scanBatch around stop sources).1.files, r.lastScanned.InCalendar := by
    intro r hr
    rw [(hfile r hr).lastScanned]
    exact hnow
  have hwritable := fun r (hr : r ∈ (s.scanBatch around stop sources).1.files) =>
    isWritable_of_mem_integersOfBatch hr hintegers
  obtain ⟨summary, hsummary⟩ := exists_summaryCsv_iff.mpr fun r hr => by
    obtain ⟨x, hx, -⟩ := hshares r hr
    obtain ⟨⟨htotal, hbiased, hseconds⟩, -⟩ := hwritable r hr
    exact ⟨htotal, hbiased, hseconds, ⟨x, by rw [hx]; rfl⟩, htimes r hr⟩
  obtain ⟨records, hread, hrecords, -⟩ := readTable?_summaryCsv hsummary
  have hdetails := detailCsv_eq_ok_iff.mpr ⟨fun r hr => (hwritable r hr).2, rfl⟩
  obtain ⟨v, hv, hwell, htells⟩ : ∃ v, Json.ofBatchReport (s.scanBatch around stop sources).1 = .ok v ∧
      Json.WellFormed v ∧ Json.TellsBatch v (s.scanBatch around stop sources).1 := by
    refine Json.exists_ofBatchReport ?_ ?_ (fun r hr _ _ => htimes r hr) fun _ _ => hnow
    · intro r hr x hx
      obtain ⟨y, hy, hfinite⟩ := hshares r hr
      rw [hx] at hy
      cases hy
      exact hfinite
    · rintro _ ⟨⟩
      exact ⟨by decide, le_rfl, by decide, fun _ => rfl⟩
  obtain ⟨items, hitems, hobjects⟩ := htells.files
  obtain ⟨views, rfl, rfl, hrows, hagree⟩ := exists_views (fun r hr => (hfile r hr).biasedElements) hrecords hobjects
  refine ⟨summary, _, v, views, hsummary, hread, hdetails, ?_, fun indent => ⟨_, ?_, Json.read?_text hwell indent⟩,
    hitems, hagree, ?_, ?_⟩
  · rw [(readTable?_detailCsv hdetails).1, hrows]
  · exact batchJson_eq_ok_iff.mpr ⟨hintegers, v, hv, rfl⟩
  · rw [htells.totalOccurrences, (s.scanBatch_addsUp around stop sources).totalOccurrences_eq]
  · rw [htells.estimatedTotalTime]
    rfl

/-- A batch of a file with a finding, one without and one that cannot be read, stopped before the last source. -/
def mixedBatch : BatchReport :=
  ((new Settings.builtin Catalog.builtin 100 []).scanBatch ⟨⟨.folder [], []⟩, .whole 0⟩ (whileReading 3)
    [⟨"a.js".toList, some "let man = 1".toList, none⟩, ⟨"b.js".toList, some "x".toList, none⟩,
      ⟨"c.js".toList, none, none⟩, ⟨"d.js".toList, some "let man = 1".toList, none⟩]).1

/-- The exports of a mixed batch agree on one finding in its three files. -/
theorem exports_of_mixedBatch_agree :
    ∃ (details : Text) (v : Json) (views : List FileView), (∀ indent, ∃ text, batchJson indent mixedBatch = .ok text ∧
        Json.read? text = some v) ∧
      detailCsv mixedBatch = .ok details ∧
      readTable? details = some (detailColumns :: views.flatMap (·.details)) ∧
      views.map (fun view => view.details.countP hasLine) = [1, 0, 0] ∧
      Json.wholeUnder? v "totalOccurrences" = some 1 := by
  have hfew : ∀ r ∈ mixedBatch.files, r.findings.length < 2 ^ 1000 := by
    decide +kernel
  have hintegers : ∀ n ∈ integersOfBatch mixedBatch, Text.isWritable n = true := by
    decide +kernel
  obtain ⟨summary, details, v, views, -, -, hdetails, hrows, hdocument, -, hagree, htotal, -⟩ :=
    exports_of_scanBatch_agree (new Settings.builtin Catalog.builtin 100 []) ⟨⟨.folder [], []⟩, .whole 0⟩
      (whileReading 3) _ ⟨⟨0, 0⟩, rfl, by decide, by decide⟩ hfew hintegers
  refine ⟨details, v, views, hdocument, hdetails, hrows, ?_, ?_⟩
  · have hcounts : List.Forall₂ (· = ·) (mixedBatch.files.map fun r => r.findings.length)
        (views.map fun view => view.details.countP hasLine) := by
      rw [List.forall₂_map_left_iff, List.forall₂_map_right_iff]
      exact hagree.imp fun r view h => by exact_mod_cast h.details_found.symm
    rw [List.forall₂_eq_eq_eq] at hcounts
    rw [← hcounts]
    decide +kernel
  · rw [htotal]
    decide +kernel

/-- The built-in settings with a number of 4335 digits for the seconds that one fix takes. -/
def slowSettings : Settings :=
  { Settings.builtin with
    timePerFix := 16 ^ 3600 - 1
    positive := by decide +kernel }

/-- A batch of one file with one finding, which takes so many seconds to fix that neither the summary nor the document
can be written. -/
theorem exports_of_slowBatch_fail :
    (summaryCsv ((new slowSettings Catalog.builtin 100 []).scanBatch ⟨⟨.folder [], []⟩, .whole 0⟩ never
        [⟨"a.js".toList, some "let man = 1".toList, none⟩]).1 = .error (.unwritable .tooManyDigits)) ∧
      batchJson (some 2) ((new slowSettings Catalog.builtin 100 []).scanBatch ⟨⟨.folder [], []⟩, .whole 0⟩ never
        [⟨"a.js".toList, some "let man = 1".toList, none⟩]).1 = .error (.unwritable .tooManyDigits) := by
  constructor <;> decide +kernel

end Scanner

end Wording
