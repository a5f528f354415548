import Wording.Export.Fault
import Wording.Scan.Report

/-!
Reports as comma-separated values. The names of the columns stand bare in the first line; every field
below stands between double quotes, and a quote inside is written twice. A line feed ends each line, and in the end all
line feeds behind the last line are taken away. Integers with too many digits cannot be written.
-/

set_option autoImplicit false

namespace Wording.Export

/-- The columns of the summary, which has one record for each file. -/
def summaryColumns : List Text :=
  ["File Name", "File Path", "Language", "Total Elements", "Biased Elements", "Bias Percentage",
   "Estimated Fix Time (seconds)", "Last Scanned"].map String.toList

/-- The columns of the details, which have one record for each finding. -/
def detailColumns : List Text :=
  ["File Name", "File Path", "Language", "Line Number", "Column", "Occurrence Type", "Biased Term",
   "Term Category", "Term Severity", "Context", "Content"].map String.toList

/-- A field between quotes, with the quotes inside written twice. -/
def quotedField (t : Text) : Text :=
  '"' :: t.flatMap (fun c => if c = '"' then ['"', '"'] else [c]) ++ ['"']

def recordText (fields : List Text) : Text := Text.join [','] (fields.map quotedField)

/-- A text without the line feeds at its end. -/
def withoutLastLineFeeds (t : Text) : Text := (t.reverse.dropWhile (· = '\n')).reverse

/-- The columns and some records, each with a line feed behind it, but without the last line feeds. -/
def tableText (columns : List Text) (records : List (List Text)) : Text :=
  withoutLastLineFeeds
    (Text.join [','] columns ++ ['\n'] ++ records.flatMap fun record => recordText record ++ ['\n'])

def summaryRecord (r : FileReport) : Except ExportError (List Text) := do
  let total ← integerText r.totalElements
  let biased ← integerText r.biasedElements
  let share ← (r.biasPercentage.fixed 2).mapError .number
  let seconds ← integerText r.estimatedFixTime
  let scanned ← (timeText r.lastScanned).mapError .time
  pure [r.name, r.path, r.language, total, biased, share, seconds, scanned]

/-- The summary of a batch. -/
def summaryCsv (b : BatchReport) : Except ExportError Text := do
  pure (tableText summaryColumns (← b.files.mapM summaryRecord))

def findingRecord (r : FileReport) (f : Finding) : Except ExportError (List Text) := do
  let line ← integerText f.line
  let column ← integerText f.column
  pure [r.name, r.path, r.language, line, column, f.kind.text, f.term.text, f.term.category.text,
    f.term.severity.text, f.context, f.content]

/-- The record of a file without findings in the details. -/
def placeholderRecord (r : FileReport) : List Text :=
  [r.name, r.path, r.language, [], [], [], [], [], [], "No biased terms found".toList, []]

def detailRecords (r : FileReport) : Except ExportError (List (List Text)) :=
  if r.findings = [] then .ok [placeholderRecord r] else r.findings.mapM (findingRecord r)

/-- The details of a batch. -/
def detailCsv (b : BatchReport) : Except ExportError Text := do
  pure (tableText detailColumns (← b.files.mapM detailRecords).flatten)

end Wording.Export
