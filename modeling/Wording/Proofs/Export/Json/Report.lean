import Wording.Proofs.Attempt
import Wording.Proofs.Calendar.Range
import Wording.Proofs.Export.Json.Characters
import Wording.Proofs.Export.Json.Fields
import Wording.Proofs.Export.Json.Value

/-! # What the document of a report tells

The value of a batch holds every field of the batch, of its files and of their findings under its name; only a time that
is a binary number stands there as a date. `TellsBatch` and `TellsFile` say what is found under which name, with the
values of the fields and no others, so that nothing of a report is lost in its document.

The document of a batch is one text of ASCII for each indentation, and all of them read back as the same value: the
value is well-formed (`WellFormed`), which is all that reading back asks for. It can be written if no integer in it has
too many digits, and its times have a date (`Exportable`).
-/

set_option autoImplicit false

namespace Wording.Export

namespace Json

/-! ## What a document tells -/

/-- That a value tells a time: in seconds if these are a whole number, else as a date. -/
def TellsTime (v : Option Json) : Number.Quantity → Prop
  | .whole n => v >>= asWhole? = some n
  | q => ∃ t, timeText q = .ok t ∧ v >>= asText? = some t

/-- That a document tells every field of the report on a file. -/
structure TellsFile (v : Json) (r : FileReport) : Prop where
  path : textUnder? v "path" = some r.path
  name : textUnder? v "name" = some r.name
  language : textUnder? v "language" = some r.language
  totalElements : wholeUnder? v "totalElements" = some r.totalElements
  biasedElements : wholeUnder? v "biasedElements" = some r.biasedElements
  biasPercentage : quantityUnder? v "biasPercentage" = some r.biasPercentage
  estimatedFixTime : wholeUnder? v "estimatedFixTime" = some r.estimatedFixTime
  findings : (do (← itemsUnder? v "occurrences").mapM finding?) = some r.findings
  lastScanned : TellsTime (field? v "lastScanned") r.lastScanned
  error : textUnder? v "error" = some r.error

/-- That a document tells every field of the report on a batch, and the files in their order. -/
structure TellsBatch (v : Json) (b : BatchReport) : Prop where
  totalFiles : wholeUnder? v "totalFiles" = some b.totalFiles
  scannedFiles : wholeUnder? v "scannedFiles" = some b.scannedFiles
  totalOccurrences : wholeUnder? v "totalOccurrences" = some b.totalOccurrences
  estimatedTotalTime : wholeUnder? v "estimatedTotalTime" = some b.estimatedTotalTime
  files : ∃ items, itemsUnder? v "files" = some items ∧ List.Forall₂ TellsFile items b.files
  scanDuration : quantityUnder? v "scanDuration" = some b.scanDuration
  timestamp : TellsTime (field? v "timestamp") b.timestamp

/-! ## What can be exported -/

/-- That a quantity is a number: a whole one, or a finite binary one. -/
def IsNumeric (q : Number.Quantity) : Prop := ∀ x, q = .binary x → x.IsFinite

/-- That a time is written: in seconds, or as a date in the years 1 to 9999. -/
def HasTime (q : Number.Quantity) : Prop := ∀ x, q = .binary x → q.InCalendar

/-- A quantity that is a number stands as its text, from which it is read. -/
theorem exists_ofQuantity {q : Number.Quantity} (h : IsNumeric q) :
    ∃ t, ofQuantity q = .number t ∧ isNumber t = true ∧ quantityOfText t = q := by
  cases q with
  | whole n => exact ⟨_, rfl, isNumber_ofInt n, quantityOfText_ofInt n⟩
  | binary x =>
    have hfinite : x.IsFinite := h x rfl
    cases x with
    | finite negative significand exponent =>
      exact ⟨_, rfl, isNumber_shortest hfinite, quantityOfText_shortest hfinite⟩
    | infinite negative => cases hfinite
    | undefined => cases hfinite

theorem wellFormed_ofQuantity {q : Number.Quantity} (h : IsNumeric q) : WellFormed (ofQuantity q) := by
  obtain ⟨t, heq, hnumber, -⟩ := exists_ofQuantity h
  rw [heq]
  exact .number hnumber

/-- A quantity that is a number is read from its value. -/
theorem asQuantity?_ofQuantity {q : Number.Quantity} (h : IsNumeric q) : asQuantity? (ofQuantity q) = some q := by
  obtain ⟨t, heq, -, hread⟩ := exists_ofQuantity h
  rw [heq, asQuantity?, hread]

theorem exists_ofTime {q : Number.Quantity} (h : HasTime q) :
    ∃ v, ofTime q = .ok v ∧ WellFormed v ∧ TellsTime (some v) q := by
  cases q with
  | whole n => exact ⟨_, rfl, .number (isNumber_ofInt n), asWhole?_ofInt n⟩
  | binary x =>
    obtain ⟨t, ht⟩ := exists_timeText_iff.mpr (h x rfl)
    refine ⟨.string t, ?_, .string t, t, ht, rfl⟩
    rw [ofTime, ht]
    · rfl
    · nofun

theorem wellFormed_ofInt (n : Int) : WellFormed (ofInt n) := .number (isNumber_ofInt n)

theorem wellFormed_ofFields {fields : List (String × Json)} (h : fields.Forall fun field => WellFormed field.2) :
    WellFormed (ofFields fields) := by
  rw [List.forall_iff_forall_mem] at h
  exact .object (List.forall_mem_map.mpr h)

theorem wellFormed_ofTerm (t : Term) : WellFormed (ofTerm t) := by
  have hsuggestions : WellFormed (.array (t.suggestions.map .string)) :=
    .array (List.forall_mem_map.mpr fun s _ => .string s)
  exact wellFormed_ofFields ⟨.string _, .string _, .string _, .string _, hsuggestions⟩

theorem wellFormed_ofFinding (f : Finding) : WellFormed (ofFinding f) :=
  wellFormed_ofFields
    ⟨.string _, wellFormed_ofInt _, wellFormed_ofInt _, .string _, .string _, wellFormed_ofTerm f.term⟩

/-- A file whose share is a number and whose time is written has an object that tells it. -/
theorem exists_ofFileReport {r : FileReport} (hshare : IsNumeric r.biasPercentage) (htime : HasTime r.lastScanned) :
    ∃ v, ofFileReport r = .ok v ∧ WellFormed v ∧ TellsFile v r := by
  obtain ⟨time, htime, hwell, htells⟩ := exists_ofTime htime
  have hfindings : WellFormed (.array (r.findings.map ofFinding)) :=
    .array (List.forall_mem_map.mpr fun f _ => wellFormed_ofFinding f)
  refine ⟨_, by rw [ofFileReport, htime]; rfl, wellFormed_ofFields ?_, ?_⟩
  · exact ⟨.string _, .string _, .string _, wellFormed_ofInt _, wellFormed_ofInt _, wellFormed_ofQuantity hshare,
      wellFormed_ofInt _, hfindings, hwell, .string _⟩
  · exact
      { path := rfl
        name := rfl
        language := rfl
        totalElements := asWhole?_ofInt _
        biasedElements := asWhole?_ofInt _
        biasPercentage := asQuantity?_ofQuantity hshare
        estimatedFixTime := asWhole?_ofInt _
        findings := mapM_map_eq_some finding?_ofFinding _
        lastScanned := htells
        error := rfl }

/-- A batch that can be exported has an object that tells it. -/
theorem exists_ofBatchReport {b : BatchReport} (hshares : ∀ r ∈ b.files, IsNumeric r.biasPercentage)
    (hduration : IsNumeric b.scanDuration) (htimes : ∀ r ∈ b.files, HasTime r.lastScanned)
    (htimestamp : HasTime b.timestamp) : ∃ v, ofBatchReport b = .ok v ∧ WellFormed v ∧ TellsBatch v b := by
  obtain ⟨time, htime, hwell, htells⟩ := exists_ofTime htimestamp
  obtain ⟨items, hitems, hall⟩ := Attempt.exists_mapM_eq_ok fun r hr =>
    exists_ofFileReport (hshares r hr) (htimes r hr)
  obtain ⟨hitemsWell, hfiles⟩ := (List.forall₂_and_left _ _).mp hall.flip
  refine ⟨_, by rw [ofBatchReport, hitems, htime]; rfl, wellFormed_ofFields ?_, ?_⟩
  · exact ⟨wellFormed_ofInt _, wellFormed_ofInt _, wellFormed_ofInt _, wellFormed_ofInt _, .array hitemsWell,
      wellFormed_ofQuantity hduration, hwell⟩
  · exact
      { totalFiles := asWhole?_ofInt _
        scannedFiles := asWhole?_ofInt _
        totalOccurrences := asWhole?_ofInt _
        estimatedTotalTime := asWhole?_ofInt _
        files := ⟨items, rfl, hfiles⟩
        scanDuration := asQuantity?_ofQuantity hduration
        timestamp := htells }

/-- That a batch can be exported: its integers have few enough digits, its shares and its duration are numbers, and its
times are written. -/
structure Exportable (b : BatchReport) : Prop where
  integers : ∀ n ∈ integersOfBatch b, Text.isWritable n = true
  shares : ∀ r ∈ b.files, IsNumeric r.biasPercentage
  duration : IsNumeric b.scanDuration
  times : ∀ r ∈ b.files, HasTime r.lastScanned
  timestamp : HasTime b.timestamp

end Json

/-- A document is written once its value is made and its integers are found to have few enough digits. -/
theorem batchJson_eq_ok_iff {indent : Option Int} {b : BatchReport} {text : Text} :
    batchJson indent b = .ok text ↔
      (∀ n ∈ integersOfBatch b, Text.isWritable n = true) ∧
        ∃ v, Json.ofBatchReport b = .ok v ∧ v.text indent = text := by
  simp only [batchJson, Attempt.bind_eq_ok_iff, Attempt.mapError_eq_ok_iff, ← List.all_eq_true]
  constructor
  · rintro ⟨v, hv, h⟩
    split at h
    next hall =>
      cases h
      exact ⟨hall, v, hv, rfl⟩
    next => cases h
  · rintro ⟨hall, v, hv, rfl⟩
    exact ⟨v, hv, if_pos hall⟩

open Json in
/-- A batch that can be exported has a value that tells every field of it. For each indentation its document is a text
of ASCII that reads back as this value. -/
theorem read?_batchJson {b : BatchReport} (h : Exportable b) :
    ∃ v, ofBatchReport b = .ok v ∧ TellsBatch v b ∧
      ∀ indent, ∃ text, batchJson indent b = .ok text ∧ IsAscii text ∧ read? text = some v := by
  obtain ⟨v, hv, hwell, htells⟩ := exists_ofBatchReport h.shares h.duration h.times h.timestamp
  refine ⟨v, hv, htells, fun indent => ⟨_, ?_, isAscii_text hwell indent, read?_text hwell indent⟩⟩
  exact batchJson_eq_ok_iff.mpr ⟨h.integers, v, hv, rfl⟩

/-- A batch of one file, whose name and whose finding hold characters that are escaped. -/
def escapedBatch : BatchReport where
  totalFiles := 1
  scannedFiles := 1
  totalOccurrences := 1
  estimatedTotalTime := 30
  files :=
    [{ path := "src/a.js".toList
       name := "\"a\" 😀".toList
       language := "javascript".toList
       totalElements := 2
       biasedElements := 1
       biasPercentage := .binary (.finite false 0x19000000000000 (-47))
       estimatedFixTime := 30
       findings :=
        [{ kind := .string
           line := 1
           column := 9
           content := "master\x01".toList
           context := "let é = \"master\x01\"".toList
           term := ⟨"1".toList, "master".toList, .hierarchy, .high, ["main".toList, "lead".toList], by decide⟩ }]
       lastScanned := .whole 0
       error := [] }]
  scanDuration := .binary (.zero false)
  timestamp := .binary (.ofInt 1706702400)

open Json in
/-- Written on one line, a batch with escaped characters reads back with its duration and its files. -/
theorem read?_batchJson_escaped :
    ∃ text v, batchJson none escapedBatch = .ok text ∧ read? text = some v ∧
      quantityUnder? v "scanDuration" = some (.binary (.zero false)) ∧
      ∃ items, itemsUnder? v "files" = some items ∧ List.Forall₂ TellsFile items escapedBatch.files := by
  have hexportable : Exportable escapedBatch :=
    { integers := by decide +kernel
      shares := by
        rintro _ (_ | ⟨_, ⟨⟩⟩) _ ⟨⟩
        exact ⟨by decide, by decide, by decide, by decide⟩
      duration := by
        rintro _ ⟨⟩
        exact ⟨by decide, by decide, by decide, fun _ => rfl⟩
      times := by
        rintro _ (_ | ⟨_, ⟨⟩⟩) _ ⟨⟩
      timestamp := fun _ _ => ⟨⟨1706702400, 0⟩, by decide +kernel, by decide, by decide⟩ }
  obtain ⟨v, -, htells, hread⟩ := read?_batchJson hexportable
  obtain ⟨text, htext, -, hvalue⟩ := hread none
  exact ⟨text, v, htext, hvalue, htells.scanDuration, htells.files⟩

/-- A duration that is infinite has a name that no document can hold. -/
theorem read?_batchJson_infinite :
    ∃ text, batchJson (some 2) ⟨0, 0, 0, 0, [], .binary (.infinite false), .whole 0⟩ = .ok text ∧
      Json.read? text = none :=
  ⟨_, batchJson_eq_ok_iff.mpr ⟨by decide +kernel, _, rfl, rfl⟩, rfl⟩

/-! ## Characters of a document -/

namespace Json

variable {v : Json}

/-- Every quantity stands in plain ASCII, also the values beyond all numbers, which have names. -/
theorem hasPlainNumbers_ofQuantity (q : Number.Quantity) : HasPlainNumbers (ofQuantity q) := by
  cases q with
  | whole n => exact (wellFormed_ofInt n).hasPlainNumbers
  | binary x =>
    cases x with
    | finite negative significand exponent =>
      exact .number (isPlainAscii_of_isNumberChar fun _ => isNumberChar_of_mem_shortest)
    | infinite negative => cases negative <;> exact .number (isPlainAscii_iff_all.mpr (by decide))
    | undefined => exact .number (isPlainAscii_iff_all.mpr (by decide))

theorem hasPlainNumbers_of_ofTime {q : Number.Quantity} (h : ofTime q = .ok v) : HasPlainNumbers v := by
  cases q with
  | whole n =>
    cases h
    exact (wellFormed_ofInt n).hasPlainNumbers
  | binary x =>
    obtain ⟨t, -, rfl⟩ := Attempt.map_eq_ok_iff.mp h
    exact .string t

/-- The numbers of an object are plain ASCII if those of its fields are. -/
theorem hasPlainNumbers_ofFields {fields : List (String × Json)}
    (h : fields.Forall fun field => HasPlainNumbers field.2) : HasPlainNumbers (ofFields fields) := by
  rw [List.forall_iff_forall_mem] at h
  exact .object (List.forall_mem_map.mpr h)

theorem hasPlainNumbers_of_ofFileReport {r : FileReport} (h : ofFileReport r = .ok v) : HasPlainNumbers v := by
  obtain ⟨time, htime, h⟩ := Attempt.bind_eq_ok_iff.mp h
  cases h
  have hint (n : Int) : HasPlainNumbers (ofInt n) := (wellFormed_ofInt n).hasPlainNumbers
  have hfindings : HasPlainNumbers (.array (r.findings.map ofFinding)) :=
    .array (List.forall_mem_map.mpr fun f _ => (wellFormed_ofFinding f).hasPlainNumbers)
  exact hasPlainNumbers_ofFields ⟨.string _, .string _, .string _, hint _, hint _, hasPlainNumbers_ofQuantity _, hint _,
    hfindings, hasPlainNumbers_of_ofTime htime, .string _⟩

theorem hasPlainNumbers_of_ofBatchReport {b : BatchReport} (h : ofBatchReport b = .ok v) : HasPlainNumbers v := by
  obtain ⟨files, hfiles, h⟩ := Attempt.bind_eq_ok_iff.mp h
  obtain ⟨time, htime, h⟩ := Attempt.bind_eq_ok_iff.mp h
  cases h
  have hint (n : Int) : HasPlainNumbers (ofInt n) := (wellFormed_ofInt n).hasPlainNumbers
  have hall := (Attempt.mapM_eq_ok_iff.mp hfiles).flip.imp fun v r hv =>
    And.intro (hasPlainNumbers_of_ofFileReport hv) hv
  obtain ⟨hitems, -⟩ := (List.forall₂_and_left _ _).mp hall
  exact hasPlainNumbers_ofFields ⟨hint _, hint _, hint _, hint _, .array hitems, hasPlainNumbers_ofQuantity _,
    hasPlainNumbers_of_ofTime htime⟩

end Json

/-- Whatever a batch holds, its document holds only line feeds and characters of ASCII that are printed as they are. -/
theorem isPlainAscii_of_batchJson {indent : Option Int} {b : BatchReport} {text : Text}
    (h : batchJson indent b = .ok text) : Json.IsPlainAscii text := by
  obtain ⟨-, v, hv, rfl⟩ := batchJson_eq_ok_iff.mp h
  exact Json.isPlainAscii_textAt (Json.hasPlainNumbers_of_ofBatchReport hv) indent 0

end Wording.Export
