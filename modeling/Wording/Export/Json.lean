import Wording.Export.Fault
import Wording.Scan.Report
import Wording.Text.Quoted

/-!
Reports as JSON documents in ASCII. A document is a value first, in which times are dates already, and a text then; the
text is one line, or has a line for each item, indented or not. Integers with too many digits cannot be written, be they
counts, times or shares.
-/

set_option autoImplicit false

namespace Wording.Export

/-- A JSON value. A number keeps its text, an object the order of its fields. -/
inductive Json where
  | number (text : Text)
  | string (text : Text)
  | array (items : List Json)
  | object (fields : List (Text × Json))

namespace Json

/-- Four hexadecimal digits behind the sign of a code unit. -/
def codeUnit (n : Nat) : Text := ['\\', 'u'] ++ Text.hexPadded 4 n

/-- A character inside a string: ASCII that can be printed as itself, the rest escaped, beyond the basic
plane by two code units. -/
def charText (c : Char) : Text :=
  if c = '"' || c = '\\' then ['\\', c]
  else if c = '\n' then ['\\', 'n']
  else if c = '\r' then ['\\', 'r']
  else if c = '\t' then ['\\', 't']
  else if c = '\x0c' then ['\\', 'f']
  else if c = '\x08' then ['\\', 'b']
  else if ' ' ≤ c && c ≤ '~' then [c]
  else if c.toNat < 0x10000 then codeUnit c.toNat
  else
    let n := c.toNat - 0x10000
    codeUnit (0xD800 + n / 0x400) ++ codeUnit (0xDC00 + n % 0x400)

def stringText (t : Text) : Text := '"' :: t.flatMap charText ++ ['"']

/-- What stands between the items of an array or object at a depth: before the first, between two, and
behind the last. -/
structure Gaps where
  before : Text
  between : Text
  behind : Text

/-- The gaps for an indentation: none puts all on one line, and one that is not positive breaks lines
without indenting them. -/
def gaps (indent : Option Int) (depth : Nat) : Gaps :=
  match indent with
  | none => ⟨[], [',', ' '], []⟩
  | some n =>
    let line (depth : Nat) : Text := '\n' :: List.replicate (n.toNat * depth) ' '
    ⟨line (depth + 1), ',' :: line (depth + 1), line depth⟩

/-- Items between two brackets; without items the brackets stand side by side. -/
def bracketed (opening closing : Char) (g : Gaps) (items : List Text) : Text :=
  if items = [] then [opening, closing]
  else opening :: g.before ++ Text.join g.between items ++ g.behind ++ [closing]

mutual

def textAt (indent : Option Int) (depth : Nat) : Json → Text
  | .number t => t
  | .string t => stringText t
  | .array items => bracketed '[' ']' (gaps indent depth) (itemTexts indent (depth + 1) items)
  | .object fields =>
    bracketed '\x7b' '\x7d' (gaps indent depth) (fieldTexts indent (depth + 1) fields)

def itemTexts (indent : Option Int) (depth : Nat) : List Json → List Text
  | [] => []
  | item :: rest => textAt indent depth item :: itemTexts indent depth rest

def fieldTexts (indent : Option Int) (depth : Nat) : List (Text × Json) → List Text
  | [] => []
  | (key, v) :: rest =>
    (stringText key ++ [':', ' '] ++ textAt indent depth v) :: fieldTexts indent depth rest

end

/-- The text of a document. -/
def text (indent : Option Int) (v : Json) : Text := textAt indent 0 v

/-- An object from the names and values of its fields. -/
def ofFields (fields : List (String × Json)) : Json :=
  .object (fields.map fun (key, v) => (key.toList, v))

/-- A whole number. -/
def ofInt (n : Int) : Json := .number (Text.ofInt n)

/-- A quantity as a number. The values beyond all numbers have names. -/
def ofQuantity : Number.Quantity → Json
  | .binary (.infinite negative) => .number (Number.signText negative ++ "Infinity".toList)
  | .binary .undefined => .number "NaN".toList
  | q => .number q.text

/-- A time: a whole number stays one, a binary one becomes date and time of day. -/
def ofTime : Number.Quantity → Except TimeError Json
  | .whole n => .ok (ofInt n)
  | q => (timeText q).map .string

def ofTerm (t : Term) : Json :=
  ofFields
    [("id", .string t.id), ("term", .string t.text), ("category", .string t.category.text),
     ("severity", .string t.severity.text), ("suggestions", .array (t.suggestions.map .string))]

def ofFinding (f : Finding) : Json :=
  ofFields
    [("type", .string f.kind.text), ("line", ofInt f.line), ("column", ofInt f.column),
     ("content", .string f.content), ("context", .string f.context), ("biasedTerm", ofTerm f.term)]

def ofFileReport (r : FileReport) : Except TimeError Json := do
  pure (ofFields
    [("path", .string r.path), ("name", .string r.name), ("language", .string r.language),
     ("totalElements", ofInt r.totalElements), ("biasedElements", ofInt r.biasedElements),
     ("biasPercentage", ofQuantity r.biasPercentage), ("estimatedFixTime", ofInt r.estimatedFixTime),
     ("occurrences", .array (r.findings.map ofFinding)), ("lastScanned", ← ofTime r.lastScanned),
     ("error", .string r.error)])

def ofBatchReport (b : BatchReport) : Except TimeError Json := do
  let files ← b.files.mapM ofFileReport
  pure (ofFields
    [("totalFiles", ofInt b.totalFiles), ("scannedFiles", ofInt b.scannedFiles),
     ("totalOccurrences", ofInt b.totalOccurrences),
     ("estimatedTotalTime", ofInt b.estimatedTotalTime), ("files", .array files),
     ("scanDuration", ofQuantity b.scanDuration), ("timestamp", ← ofTime b.timestamp)])

end Json

/-- The integers that a document writes for a quantity. -/
def integersOfQuantity : Number.Quantity → List Int
  | .whole n => [n]
  | .binary _ => []

/-- The integers that a document writes for the report on a file. -/
def integersOfFile (r : FileReport) : List Int :=
  [r.totalElements, r.biasedElements] ++ integersOfQuantity r.biasPercentage ++ [r.estimatedFixTime] ++
    r.findings.flatMap (fun f => [f.line, f.column]) ++ integersOfQuantity r.lastScanned

/-- The integers that a document writes for the report on a batch. -/
def integersOfBatch (b : BatchReport) : List Int :=
  [b.totalFiles, b.scannedFiles, b.totalOccurrences, b.estimatedTotalTime] ++ b.files.flatMap integersOfFile ++
    integersOfQuantity b.scanDuration ++ integersOfQuantity b.timestamp

/-- The document of a batch. Its value is made first, and the integers are written then. -/
def batchJson (indent : Option Int) (b : BatchReport) : Except ExportError Text := do
  let v ← (Json.ofBatchReport b).mapError .time
  if (integersOfBatch b).all Text.isWritable then .ok (v.text indent) else .error (.unwritable .tooManyDigits)

end Wording.Export
