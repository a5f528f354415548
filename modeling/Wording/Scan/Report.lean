import Wording.Finding
import Wording.Number.Quantity

/-!
Reports of scans: one for each file, and one for a batch of files. A file that could not be scanned has a
report too, with the reason in it and nothing counted.
-/

set_option autoImplicit false

namespace Wording

/-- What a scan says about one file. -/
structure FileReport where
  path : Text
  name : Text
  language : Text
  totalElements : Int
  biasedElements : Int
  biasPercentage : Number.Quantity
  estimatedFixTime : Int
  findings : List Finding
  lastScanned : Number.Quantity
  error : Text
deriving DecidableEq, Repr

/-- What a scan says about a batch of files. -/
structure BatchReport where
  totalFiles : Int
  scannedFiles : Int
  totalOccurrences : Int
  estimatedTotalTime : Int
  files : List FileReport
  scanDuration : Number.Quantity
  timestamp : Number.Quantity
deriving DecidableEq, Repr

namespace FileReport

/-- Whether the report names an error. -/
def hasError (r : FileReport) : Bool := r.error ≠ []

/-- The groups of findings that stand side by side on one line. -/
def groupRuns : List Finding → List (Int × List Finding)
  | [] => []
  | f :: rest =>
    match groupRuns rest with
    | [] => [(f.line, [f])]
    | (line, group) :: groups =>
      if f.line = line then (line, f :: group) :: groups else (f.line, [f]) :: (line, group) :: groups

/-- The findings by their lines, the lines in ascending order. -/
def byLine (r : FileReport) : List (Int × List Finding) :=
  groupRuns (r.findings.mergeSort fun f g => f.line ≤ g.line)

end FileReport

namespace BatchReport

def failedFiles (b : BatchReport) : List FileReport := b.files.filter (·.hasError)

/-- Whether all files of the batch were scanned. -/
def isComplete (b : BatchReport) : Bool := b.scannedFiles = b.totalFiles

end BatchReport

end Wording
