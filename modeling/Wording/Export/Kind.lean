import Wording.Export.Csv
import Wording.Export.Json

/-!
The kinds of exported documents, their words, their texts and the names of their files.
-/

set_option autoImplicit false

namespace Wording.Export

/-- A kind of exported document. -/
inductive Kind where
  | csv
  | detailedCsv
  | json
deriving DecidableEq, Repr

namespace Kind

def text : Kind → Text
  | .csv => "csv".toList
  | .detailedCsv => "detailed-csv".toList
  | .json => "json".toList

def ofText? (t : Text) : Option Kind := [Kind.csv, .detailedCsv, .json].find? fun k => k.text = t

/-- The document of a batch, a JSON document with two spaces of indentation. -/
def document (k : Kind) (b : BatchReport) : Except ExportError Text :=
  match k with
  | .csv => summaryCsv b
  | .detailedCsv => detailCsv b
  | .json => batchJson (some 2) b

/-- The name of a file for a document of a date. -/
def fileName (k : Kind) (d : Date) : Text :=
  let (stem, ending) :=
    match k with
    | .csv => ("bias-scan-results-", ".csv")
    | .detailedCsv => ("bias-scan-detailed-", ".csv")
    | .json => ("bias-scan-results-", ".json")
  stem.toList ++ d.text ++ ending.toList

end Kind

end Wording.Export
