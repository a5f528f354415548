import Wording.Calendar.Duration
import Wording.Console.Printout
import Wording.Export.Fault
import Wording.Scan.Report

/-!
What a console is handed of a scan: a table of its files, the findings of a file line by line, and a summary. The texts
are made one after the other, each just before it is printed, so that what stands before a text that cannot be made is
printed all the same; only the rows of the table are all made first. What stems from files is escaped, so that it cannot
be taken for markup; the words of terms are not.
-/

set_option autoImplicit false

namespace Wording.Console

/-- What is handed to a console, or why it cannot be made. -/
abbrev Making := Except ExportError Printout

def secondsText (n : Int) : Except ExportError Text := (durationText n).mapError .unwritable

def textOf (markup : Except ExportError Text) : Making := markup.map .text

def fileColumns : List Column :=
  [{ title := "File".toList, style := "cyan".toList },
   { title := "Language".toList },
   { title := "Elements".toList, side := .right },
   { title := "Biased".toList, side := .right },
   { title := "Bias %".toList, side := .right },
   { title := "Fix time".toList, side := .right }]

def noFiles : Text := styled "yellow".toList "No files match the current filters.".toList

/-- The mark behind the path of a file that could not be scanned. -/
def errorMark : Text := ' ' :: styled "red".toList "(error)".toList

def biasedCell (n : Int) : Except ExportError Text :=
  if n = 0 then .ok ['0'] else (integerText n).map (styled "red".toList)

def severityColour : Severity → Text
  | .low => "blue".toList
  | .medium => "yellow".toList
  | .high => "red".toList

def findingLine (f : Finding) : Except ExportError Text := do
  let column ← integerText f.column
  let suggestions := Text.listed f.term.suggestions
  pure (List.replicate 9 ' ' ++ styled (severityColour f.term.severity) f.term.text ++
    (" (".toList ++ Text.listed [f.term.category.text, f.kind.text, "col ".toList ++ column] ++ ") → ".toList) ++
    (if suggestions = [] then ['-'] else suggestions))

/-- How many files were scanned, and how many seconds it took. -/
def scannedLine (b : BatchReport) : Except ExportError Text := do
  let scanned ← integerText b.scannedFiles
  let total ← integerText b.totalFiles
  let seconds ← (b.scanDuration.dividedBy 1000).mapError .number
  pure ("\nScanned ".toList ++ scanned ++ '/' :: total ++ " files in ".toList ++ seconds.fixed 2 ++ ['s'])

def failedLine (count : Nat) : Text :=
  styled "red".toList (Nat.toDigits 10 count ++ " file(s) failed to scan".toList)

def summary (b : BatchReport) : List Making :=
  let failed := b.failedFiles.length
  textOf (scannedLine b) :: (if failed = 0 then [] else [.ok (.text (failedLine failed))]) ++
    [textOf ((integerText b.totalOccurrences).map fun t => "Total occurrences: ".toList ++ t),
     textOf ((secondsText b.estimatedTotalTime).map fun t => "Estimated fix time: ".toList ++ t)]

section Escape

variable (escape : Text → Text)

def fileRow (r : FileReport) : Except ExportError (List Text) := do
  let biased ← biasedCell r.biasedElements
  let total ← integerText r.totalElements
  let share ← (r.biasPercentage.fixed 1).mapError .number
  let time ← secondsText r.estimatedFixTime
  pure [escape r.path ++ (if r.hasError then errorMark else []), r.language, total, biased, share, time]

/-- The table of some files, or a word if there are none. -/
def files (reports : List FileReport) : Making :=
  if reports = [] then .ok (.text noFiles)
  else (reports.mapM (fileRow escape)).map fun rows => .table ⟨"Bias scan".toList, fileColumns, rows⟩

def heading (r : FileReport) : Text := '\n' :: styled "bold".toList (escape r.path)

/-- The number of a line, at least five characters wide, and the line itself. -/
def contextLine (line : Int) (context : Text) : Except ExportError Text :=
  (integerText line).map fun number =>
    "  ".toList ++ styled "dim".toList (List.replicate (5 - number.length) ' ' ++ number) ++
      "  ".toList ++ escape context

/-- The findings of one line of a file, below the number of the line and the context of the first. -/
def lineGroup (group : Int × List Finding) : List Making :=
  textOf (contextLine escape group.1 ((group.2.head?.map (·.context)).getD [])) ::
    group.2.map fun f => textOf (findingLine f)

/-- The findings of a file below its path, or its error beside it. A file with neither shows nothing. -/
def details (r : FileReport) : List Making :=
  if r.hasError then
    [.ok (.text (heading escape r ++ ": ".toList ++ styled "red".toList (escape r.error)))]
  else if r.findings = [] then []
  else .ok (.text (heading escape r)) :: r.byLine.flatMap (lineGroup escape)

end Escape

end Wording.Console
