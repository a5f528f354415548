import Wording.Export.Csv
import Wording.Export.Csv.Reader
import Wording.Proofs.Attempt
import Wording.Proofs.Calendar.Range
import Wording.Proofs.Text.Integer

/-! # Tables that are read back

The reader comes behind a written field with exactly this field, whatever characters it holds, and so behind a record
with its fields and behind a table with its records. `WritesField`, `WritesRecord` and `Closed` say what the state of
the reader is there; the lemmas follow the writer, from a character of a field to the whole table.

Records are written with a line feed behind each, and the line feeds at the end of the whole text are taken away again.
The reader never stands where a field can end behind a line feed (`not_closed_of_step_lineFeed`), so a text that reads
to its end in such a place does not end in one, and no more is taken away than the one behind the last record.

The summary of a batch reads back as one record for each file, and its details as one for each finding and for each file
without findings. Both can be written exactly when no integer in them has too many digits, and in the summary no share
is too large and each time has a date.
-/

set_option autoImplicit false

namespace Wording

/-- That the line and the column of a finding have few enough digits to be written. -/
def Finding.HasWritablePlace (f : Finding) : Prop :=
  Text.isWritable f.line = true ∧ Text.isWritable f.column = true

namespace Export

namespace TableReading

/-- That the reader stands where a field can end, with some of it behind it. -/
def Closed (r : TableReading) : Prop := r.place = .bare ∨ r.place = .behindQuote

variable {r : TableReading}

theorem Closed.step_eq (h : r.Closed) (c : Char) : r.step c = r.stepOutside c := by
  apply if_neg
  rcases h with h | h <;> rw [h] <;> decide

theorem Closed.step_comma (h : r.Closed) :
    r.step ',' = some { place := .start, field := [], record := r.fields, records := r.records } := by
  rw [h.step_eq]
  rfl

theorem Closed.step_lineFeed (h : r.Closed) :
    r.step '\n' = some { place := .start, field := [], record := [], records := r.records ++ [r.fields] } := by
  rw [h.step_eq]
  rfl

theorem Closed.finish?_eq (h : r.Closed) : r.finish? = some (r.records ++ [r.fields]) := by
  rcases h with h | h <;> rw [finish?, h]

/-- No line feed leaves the reader where a field can end. -/
theorem not_closed_of_step_lineFeed {r' : TableReading} (h : r.step '\n' = some r') : ¬ r'.Closed := by
  rw [step] at h
  split at h
  next hquoted =>
    cases h
    rintro (hplace | hplace) <;> cases hplace
  next =>
    cases h
    rintro (hplace | hplace) <;> cases hplace

/-- A text behind which a field can end does not end in a line feed. -/
theorem getLast?_ne_lineFeed {t : Text} {r' : TableReading} (h : t.foldlM step r = some r') (hclosed : r'.Closed) :
    t.getLast? ≠ some '\n' := by
  intro hlast
  obtain ⟨before, rfl⟩ := List.getLast?_eq_some_iff.mp hlast
  rw [List.foldlM_append] at h
  obtain ⟨middle, -, hstep⟩ := Option.bind_eq_some_iff.mp h
  simp only [List.foldlM_cons, List.foldlM_nil, bind_pure] at hstep
  exact not_closed_of_step_lineFeed hstep hclosed

end TableReading

open TableReading

/-! ## Fields -/

/-- That a text writes a field: at the beginning of a field, the reader comes behind it with the field, where it can
end. -/
def WritesField (written field : Text) : Prop :=
  ∀ record records, ∃ r : TableReading, r.Closed ∧ r.fields = record ++ [field] ∧ r.records = records ∧
    written.foldlM step ⟨.start, [], record, records⟩ = some r

/-- That a text can stand bare as a field: it is not empty, and it has no comma, no quote and no end of a line. -/
def IsBare (t : Text) : Prop := t ≠ [] ∧ ∀ c ∈ t, c ≠ ',' ∧ c ≠ '\n' ∧ c ≠ '"' ∧ c ≠ '\r'

/-- Between quotes, the characters of a field with its quotes written twice are taken as the field. -/
theorem foldlM_quoted (t field : Text) (record : List Text) (records : List (List Text)) :
    (t.flatMap fun c => if c = '"' then ['"', '"'] else [c]).foldlM step ⟨.quoted, field, record, records⟩ =
      some ⟨.quoted, field ++ t, record, records⟩ := by
  induction t generalizing field with
  | nil => rw [List.append_nil, List.flatMap_nil, List.foldlM_nil, Option.pure_def]
  | cons c cs ih =>
    have hchar : (if c = '"' then ['"', '"'] else [c]).foldlM step ⟨.quoted, field, record, records⟩ =
        some ⟨.quoted, field ++ [c], record, records⟩ := by
      split
      next hquote =>
        subst hquote
        rfl
      next hquote => simp only [List.foldlM_cons, List.foldlM_nil, step, take, if_true, if_neg hquote, bind_pure]
    rw [List.flatMap_cons, List.foldlM_append, hchar, Option.bind_eq_bind, Option.bind_some, ih,
      List.append_assoc, List.singleton_append]

theorem writesField_quotedField (t : Text) : WritesField (quotedField t) t := by
  intro record records
  refine ⟨⟨.behindQuote, t, record, records⟩, Or.inr rfl, rfl, rfl, ?_⟩
  have hopen : step ⟨.start, [], record, records⟩ '"' = some ⟨.quoted, [], record, records⟩ := rfl
  rw [quotedField, List.cons_append, List.foldlM_cons, hopen, Option.bind_eq_bind, Option.bind_some,
    List.foldlM_append, foldlM_quoted]
  rfl

/-- Outside quotes, a character that can stand in a bare field is taken as part of it. -/
theorem step_of_bare {place : FieldPlace} (hplace : place = .start ∨ place = .bare) {c : Char}
    (hc : c ≠ ',' ∧ c ≠ '\n' ∧ c ≠ '"' ∧ c ≠ '\r') (field : Text) (record : List Text)
    (records : List (List Text)) :
    step ⟨place, field, record, records⟩ c = some ⟨.bare, field ++ [c], record, records⟩ := by
  obtain ⟨hcomma, hlineFeed, hquote, hreturn⟩ := hc
  rcases hplace with rfl | rfl <;>
    simp only [step, reduceCtorEq, if_false, stepOutside, if_neg hcomma, if_neg hlineFeed]
  · split <;> first | rfl | contradiction
  · rfl

theorem writesField_of_isBare {t : Text} (h : IsBare t) : WritesField t t := by
  intro record records
  refine ⟨⟨.bare, t, record, records⟩, Or.inl rfl, rfl, rfl, ?_⟩
  have hrest : ∀ (rest field : Text), (∀ c ∈ rest, c ≠ ',' ∧ c ≠ '\n' ∧ c ≠ '"' ∧ c ≠ '\r') →
      rest.foldlM step ⟨.bare, field, record, records⟩ = some ⟨.bare, field ++ rest, record, records⟩ := by
    intro rest
    induction rest with
    | nil =>
      intro field _
      rw [List.append_nil, List.foldlM_nil, Option.pure_def]
    | cons c cs ih =>
      intro field hbare
      rw [List.foldlM_cons, step_of_bare (Or.inr rfl) (hbare c List.mem_cons_self), Option.bind_eq_bind,
        Option.bind_some, ih _ fun c hc => hbare c (List.mem_cons_of_mem _ hc), List.append_assoc,
        List.singleton_append]
  obtain ⟨hne, hbare⟩ := h
  cases t with
  | nil => exact absurd rfl hne
  | cons c cs =>
    rw [List.foldlM_cons, step_of_bare (Or.inl rfl) (hbare c List.mem_cons_self), Option.bind_eq_bind,
      Option.bind_some, hrest _ _ fun c hc => hbare c (List.mem_cons_of_mem _ hc)]
    rfl

/-! ## Records -/

/-- That a text writes a record: at the beginning of a record, the reader comes behind it with the record, where the
last field of it can end. -/
def WritesRecord (written : Text) (fields : List Text) : Prop :=
  ∀ records, ∃ r : TableReading, r.Closed ∧ r.fields = fields ∧ r.records = records ∧
    written.foldlM step { records := records } = some r

/-- Written fields with commas between them write a record. -/
theorem writesRecord_join {written fields : List Text} (h : List.Forall₂ WritesField written fields)
    (hne : written ≠ []) : WritesRecord (Text.join [','] written) fields := by
  -- The fields of the record that are behind the reader change along the way.
  have hbehind : ∀ record records, ∃ r : TableReading, r.Closed ∧ r.fields = record ++ fields ∧
      r.records = records ∧
      (Text.join [','] written).foldlM step ⟨.start, [], record, records⟩ = some r := by
    induction h with
    | nil => exact absurd rfl hne
    | @cons first field rest others hfirst hrest ih =>
      intro record records
      obtain ⟨r, hclosed, hfields, rfl, hread⟩ := hfirst record records
      cases hrest with
      | nil => exact ⟨r, hclosed, hfields, rfl, hread⟩
      | @cons second other rest others hsecond hrest =>
        obtain ⟨last, hlast, hall, hrecords, hjoined⟩ := ih (List.cons_ne_nil _ _) r.fields r.records
        refine ⟨last, hlast, ?_, hrecords, ?_⟩
        · rw [hall, hfields, List.append_assoc, List.singleton_append]
        · simp only [Text.join, List.foldlM_append, List.foldlM_cons, List.foldlM_nil, bind_pure, hread,
            Option.bind_eq_bind, Option.bind_some, hclosed.step_comma]
          exact hjoined
  exact hbehind []

theorem writesRecord_recordText {fields : List Text} (hne : fields ≠ []) :
    WritesRecord (recordText fields) fields := by
  apply writesRecord_join
  · rw [List.forall₂_map_left_iff, List.forall₂_same]
    exact fun field _ => writesField_quotedField field
  · rwa [ne_eq, List.map_eq_nil_iff]

theorem writesRecord_columns {columns : List Text} (hne : columns ≠ []) (hbare : ∀ c ∈ columns, IsBare c) :
    WritesRecord (Text.join [','] columns) columns := by
  apply writesRecord_join _ hne
  rw [List.forall₂_same]
  exact fun column hcolumn => writesField_of_isBare (hbare column hcolumn)

/-! ## Tables -/

/-- Behind written records with line feeds between them, the reader has these records, where the last field of the last
one can end. -/
theorem foldlM_join_records {written : List Text} {records : List (List Text)}
    (h : List.Forall₂ WritesRecord written records) (hne : written ≠ []) (before : List (List Text)) :
    ∃ r : TableReading, r.Closed ∧ r.records ++ [r.fields] = before ++ records ∧
      (Text.join ['\n'] written).foldlM step { records := before } = some r := by
  induction h generalizing before with
  | nil => exact absurd rfl hne
  | @cons first record rest others hfirst hrest ih =>
    obtain ⟨r, hclosed, rfl, rfl, hread⟩ := hfirst before
    cases hrest with
    | nil => exact ⟨r, hclosed, rfl, hread⟩
    | @cons second other rest others hsecond hrest =>
      obtain ⟨last, hlast, hrecords, hjoined⟩ := ih (List.cons_ne_nil _ _) (r.records ++ [r.fields])
      refine ⟨last, hlast, ?_, ?_⟩
      · rw [hrecords, List.append_assoc, List.singleton_append]
      · simp only [Text.join, List.foldlM_append, List.foldlM_cons, List.foldlM_nil, bind_pure, hread,
          Option.bind_eq_bind, Option.bind_some, hclosed.step_lineFeed]
        exact hjoined

/-- One line feed behind a text that ends in none is all that is taken away. -/
theorem withoutLastLineFeeds_append {t : Text} (h : t.getLast? ≠ some '\n') :
    withoutLastLineFeeds (t ++ ['\n']) = t := by
  have hkept : t.reverse.dropWhile (· = '\n') = t.reverse := by
    rw [← List.head?_reverse] at h
    cases hreverse : t.reverse with
    | nil => rfl
    | cons c rest =>
      rw [hreverse, List.head?_cons, ne_eq, Option.some_inj] at h
      exact List.dropWhile_cons_of_neg fun hc => h (of_decide_eq_true hc)
  rw [withoutLastLineFeeds, List.reverse_append, List.reverse_singleton, List.singleton_append,
    List.dropWhile_cons_of_pos, hkept, List.reverse_reverse]
  rfl

/-- Lines that each have a line feed behind them are the lines with line feeds between them, and one more behind. -/
theorem join_append_lineFeed (first : Text) (rest : List Text) :
    Text.join ['\n'] (first :: rest) ++ ['\n'] = first ++ ['\n'] ++ rest.flatMap (· ++ ['\n']) := by
  induction rest generalizing first with
  | nil => rw [Text.join, List.flatMap_nil, List.append_nil]
  | cons second rest ih => rw [Text.join, List.append_assoc, ih, List.flatMap_cons, List.append_assoc]

/-- The text of a table has line feeds between its lines only, if the last line does not end in one. -/
theorem tableText_eq {columns : List Text} {records : List (List Text)}
    (h : (Text.join ['\n'] (Text.join [','] columns :: records.map recordText)).getLast? ≠ some '\n') :
    tableText columns records = Text.join ['\n'] (Text.join [','] columns :: records.map recordText) := by
  rw [tableText, ← List.flatMap_map recordText (· ++ ['\n']), ← join_append_lineFeed, withoutLastLineFeeds_append h]

/-- A table reads back as its columns and its records, and no line feed ends its text, whatever the fields of the
records hold. -/
theorem readTable?_tableText {columns : List Text} (hne : columns ≠ []) (hbare : ∀ c ∈ columns, IsBare c)
    {records : List (List Text)} (hrecords : ∀ record ∈ records, record ≠ []) :
    readTable? (tableText columns records) = some (columns :: records) ∧
      (tableText columns records).getLast? ≠ some '\n' := by
  have hwritten : List.Forall₂ WritesRecord (Text.join [','] columns :: records.map recordText)
      (columns :: records) := by
    refine .cons (writesRecord_columns hne hbare) ?_
    rw [List.forall₂_map_left_iff, List.forall₂_same]
    exact fun record hrecord => writesRecord_recordText (hrecords record hrecord)
  obtain ⟨r, hclosed, hall, hread⟩ := foldlM_join_records hwritten (List.cons_ne_nil _ _) []
  rw [tableText_eq (getLast?_ne_lineFeed hread hclosed)]
  refine ⟨?_, getLast?_ne_lineFeed hread hclosed⟩
  rw [readTable?, hread, Option.bind_eq_bind, Option.bind_some, hclosed.finish?_eq, hall,
    List.nil_append]

/-! ## Batches -/

theorem isBare_of_mem_columns : ∀ c ∈ summaryColumns ++ detailColumns, IsBare c := by
  have hall : (summaryColumns ++ detailColumns).all (fun t =>
      t ≠ [] && t.all fun c => c ≠ ',' && (c ≠ '\n' && (c ≠ '"' && c ≠ '\r'))) = true := by decide
  simpa only [IsBare, List.all_eq_true, Bool.and_eq_true, decide_eq_true_eq] using hall

/-- That a record is what the summary says of a file. -/
def Summarizes (r : FileReport) (record : List Text) : Prop :=
  ∃ share scanned, r.biasPercentage.fixed 2 = .ok share ∧ timeText r.lastScanned = .ok scanned ∧
    record = [r.name, r.path, r.language, Text.ofInt r.totalElements, Text.ofInt r.biasedElements, share,
      Text.ofInt r.estimatedFixTime, scanned]

theorem integerText_eq_ok_iff {n : Int} {t : Text} :
    integerText n = .ok t ↔ Text.isWritable n = true ∧ Text.ofInt n = t := by
  rw [integerText, Attempt.mapError_eq_ok_iff, Text.writeInt_eq_ok_iff]

/-- That a file can be told in the summary: its integers have few enough digits, its share is no whole number beyond all
binary ones, and its time lies in the years 1 to 9999. -/
structure CanBeSummarized (r : FileReport) : Prop where
  totalElements : Text.isWritable r.totalElements = true
  biasedElements : Text.isWritable r.biasedElements = true
  estimatedFixTime : Text.isWritable r.estimatedFixTime = true
  share : ∃ x, r.biasPercentage.toBinary = .ok x
  lastScanned : r.lastScanned.InCalendar

/-- A file has a record in the summary exactly when it can be told there, and the record says so. -/
theorem summaryRecord_eq_ok_iff {r : FileReport} {record : List Text} :
    summaryRecord r = .ok record ↔ CanBeSummarized r ∧ Summarizes r record := by
  simp only [summaryRecord, Attempt.bind_eq_ok_iff, integerText_eq_ok_iff, Attempt.mapError_eq_ok_iff]
  constructor
  · rintro ⟨_, ⟨htotal, rfl⟩, _, ⟨hbiased, rfl⟩, share, hshare, _, ⟨hseconds, rfl⟩, scanned, hscanned, ⟨⟩⟩
    obtain ⟨x, hx, -⟩ := Attempt.map_eq_ok_iff.mp hshare
    exact ⟨⟨htotal, hbiased, hseconds, ⟨x, hx⟩, exists_timeText_iff.mp ⟨scanned, hscanned⟩⟩,
      share, scanned, hshare, hscanned, rfl⟩
  · rintro ⟨h, share, scanned, hshare, hscanned, rfl⟩
    exact ⟨_, ⟨h.totalElements, rfl⟩, _, ⟨h.biasedElements, rfl⟩, share, hshare, _, ⟨h.estimatedFixTime, rfl⟩,
      scanned, hscanned, rfl⟩

theorem CanBeSummarized.exists_summarizes {r : FileReport} (h : CanBeSummarized r) :
    ∃ record, Summarizes r record := by
  obtain ⟨x, hx⟩ := h.share
  obtain ⟨scanned, hscanned⟩ := exists_timeText_iff.mpr h.lastScanned
  exact ⟨_, x.fixed 2, scanned, Attempt.map_eq_ok_iff.mpr ⟨x, hx, rfl⟩, hscanned, rfl⟩

/-- A batch has a summary exactly when each of its files can be told in it; the summary is then the table of their
records. -/
theorem summaryCsv_eq_ok_iff {b : BatchReport} {text : Text} :
    summaryCsv b = .ok text ↔ (∀ r ∈ b.files, CanBeSummarized r) ∧
      ∃ records, List.Forall₂ Summarizes b.files records ∧ text = tableText summaryColumns records := by
  simp only [summaryCsv, Attempt.bind_eq_ok_iff, Attempt.mapM_eq_ok_iff, summaryRecord_eq_ok_iff,
    List.forall₂_and_left]
  constructor
  · rintro ⟨records, ⟨hall, hrecords⟩, ⟨⟩⟩
    exact ⟨hall, records, hrecords, rfl⟩
  · rintro ⟨hall, records, hrecords, rfl⟩
    exact ⟨records, ⟨hall, hrecords⟩, rfl⟩

theorem exists_summaryCsv_iff {b : BatchReport} :
    (∃ text, summaryCsv b = .ok text) ↔ ∀ r ∈ b.files, CanBeSummarized r := by
  simp only [summaryCsv_eq_ok_iff, exists_and_left, and_iff_left_iff_imp]
  intro h
  choose! record hrecord using fun r hr => (h r hr).exists_summarizes
  exact ⟨_, b.files.map record, List.forall₂_map_right_iff.mpr (List.forall₂_same.mpr hrecord), rfl⟩

/-- The records of a summary have a field for each of its columns. -/
theorem length_of_summarizes {files : List FileReport} {records : List (List Text)}
    (h : List.Forall₂ Summarizes files records) : ∀ record ∈ records, record.length = 8 := by
  induction h with
  | nil => exact fun _ h => absurd h List.not_mem_nil
  | cons hrecord _ ih =>
    obtain ⟨share, scanned, -, -, rfl⟩ := hrecord
    exact List.forall_mem_cons.mpr ⟨rfl, ih⟩

/-- A summary reads back as its columns and a record for each file, and no line feed ends it. -/
theorem readTable?_summaryCsv {b : BatchReport} {text : Text} (h : summaryCsv b = .ok text) :
    ∃ records, readTable? text = some (summaryColumns :: records) ∧ List.Forall₂ Summarizes b.files records ∧
      (∀ record ∈ records, record.length = 8) ∧ text.getLast? ≠ some '\n' := by
  obtain ⟨-, records, hrecords, rfl⟩ := summaryCsv_eq_ok_iff.mp h
  have hlength := length_of_summarizes hrecords
  have hne : summaryColumns ≠ [] := List.cons_ne_nil _ _
  obtain ⟨hread, hlast⟩ := readTable?_tableText hne
    (fun c hc => isBare_of_mem_columns c (List.mem_append_left _ hc))
    (fun record hrecord => List.ne_nil_of_length_pos (by rw [hlength record hrecord]; decide))
  exact ⟨records, hread, hrecords, hlength, hlast⟩

/-- What the details say of a finding. -/
def findingRow (r : FileReport) (f : Finding) : List Text :=
  [r.name, r.path, r.language, Text.ofInt f.line, Text.ofInt f.column, f.kind.text, f.term.text, f.term.category.text,
    f.term.severity.text, f.context, f.content]

/-- What the details say of a file. -/
def detailRows (r : FileReport) : List (List Text) :=
  if r.findings = [] then [placeholderRecord r] else r.findings.map (findingRow r)

theorem findingRecord_eq_ok_iff {r : FileReport} {f : Finding} {record : List Text} :
    findingRecord r f = .ok record ↔ f.HasWritablePlace ∧ findingRow r f = record := by
  simp only [findingRecord, Attempt.bind_eq_ok_iff, integerText_eq_ok_iff]
  constructor
  · rintro ⟨_, ⟨hline, rfl⟩, _, ⟨hcolumn, rfl⟩, ⟨⟩⟩
    exact ⟨⟨hline, hcolumn⟩, rfl⟩
  · rintro ⟨⟨hline, hcolumn⟩, rfl⟩
    exact ⟨_, ⟨hline, rfl⟩, _, ⟨hcolumn, rfl⟩, rfl⟩

theorem detailRecords_eq_ok_iff {r : FileReport} {rows : List (List Text)} :
    detailRecords r = .ok rows ↔ (∀ f ∈ r.findings, f.HasWritablePlace) ∧ detailRows r = rows := by
  rw [detailRecords, detailRows]
  split
  next hclean =>
    rw [hclean, Except.ok.injEq, and_iff_right]
    exact fun _ h => absurd h List.not_mem_nil
  next =>
    simp only [Attempt.mapM_eq_ok_iff, findingRecord_eq_ok_iff, List.forall₂_and_left]
    refine and_congr_right fun _ => ?_
    rw [← List.forall₂_map_left_iff (R := Eq), List.forall₂_eq_eq_eq]

/-- A batch has details exactly when each finding in it has a line and a column that can be written; they are then the
table of what they say of each file. -/
theorem detailCsv_eq_ok_iff {b : BatchReport} {text : Text} :
    detailCsv b = .ok text ↔ (∀ r ∈ b.files, ∀ f ∈ r.findings, f.HasWritablePlace) ∧
      text = tableText detailColumns (b.files.flatMap detailRows) := by
  simp only [detailCsv, Attempt.bind_eq_ok_iff, Attempt.mapM_eq_ok_iff, detailRecords_eq_ok_iff,
    List.forall₂_and_left]
  simp only [← List.forall₂_map_left_iff (R := Eq) (f := detailRows), List.forall₂_eq_eq_eq]
  constructor
  · rintro ⟨_, ⟨hall, rfl⟩, ⟨⟩⟩
    exact ⟨hall, rfl⟩
  · rintro ⟨hall, rfl⟩
    exact ⟨_, ⟨hall, rfl⟩, rfl⟩

theorem length_of_mem_detailRows {r : FileReport} {record : List Text} (h : record ∈ detailRows r) :
    record.length = 11 := by
  rw [detailRows] at h
  split at h
  · rw [List.mem_singleton.mp h]
    rfl
  · obtain ⟨f, -, rfl⟩ := List.mem_map.mp h
    rfl

/-- The details of a batch read back as what they say of its files, and no line feed ends them. -/
theorem readTable?_detailCsv {b : BatchReport} {text : Text} (h : detailCsv b = .ok text) :
    readTable? text = some (detailColumns :: b.files.flatMap detailRows) ∧ text.getLast? ≠ some '\n' := by
  obtain ⟨-, rfl⟩ := detailCsv_eq_ok_iff.mp h
  apply readTable?_tableText
  · decide
  · exact fun c hc => isBare_of_mem_columns c (List.mem_append_right _ hc)
  · intro record hrecord
    obtain ⟨r, -, hmem⟩ := List.mem_flatMap.mp hrecord
    exact List.ne_nil_of_length_pos (by rw [length_of_mem_detailRows hmem]; decide)

/-- A batch has a summary exactly when the integers of its files have few enough digits, their times lie in the years 1
to 9999, and their shares are binary numbers or can be rounded to one; the summary reads back as the columns and one
record of eight fields for each file. It has details exactly when the lines and columns of its findings have few enough
digits; they read back as the columns and, file by file, one record of eleven fields for each finding, or one for a file
without findings. No line feed ends either text. -/
theorem readTable?_csv (b : BatchReport) :
    ((∃ text, summaryCsv b = .ok text) ↔ ∀ r ∈ b.files, CanBeSummarized r) ∧
      (∀ text, summaryCsv b = .ok text → ∃ records, readTable? text = some (summaryColumns :: records) ∧
        List.Forall₂ Summarizes b.files records ∧ (∀ record ∈ records, record.length = 8) ∧
        text.getLast? ≠ some '\n') ∧
      ((∃ text, detailCsv b = .ok text) ↔ ∀ r ∈ b.files, ∀ f ∈ r.findings, f.HasWritablePlace) ∧
      ∀ text, detailCsv b = .ok text → readTable? text = some (detailColumns :: b.files.flatMap fun r =>
        if r.findings = [] then
          [[r.name, r.path, r.language, [], [], [], [], [], [], "No biased terms found".toList, []]]
        else r.findings.map fun f =>
          [r.name, r.path, r.language, Text.ofInt f.line, Text.ofInt f.column, f.kind.text, f.term.text,
            f.term.category.text, f.term.severity.text, f.context, f.content]) ∧
        text.getLast? ≠ some '\n' := by
  refine ⟨exists_summaryCsv_iff, fun text => readTable?_summaryCsv, ?_, fun text => readTable?_detailCsv⟩
  simp only [detailCsv_eq_ok_iff, exists_and_left, exists_eq, and_true]

/-- A report on a file whose name has quotes and ends in a line, and whose path has a comma. -/
def awkwardReport : FileReport :=
  { path := "a,b".toList
    name := "\"a\"\r\n".toList
    language := []
    totalElements := 2
    biasedElements := 1
    biasPercentage := .whole 50
    estimatedFixTime := 30
    findings := []
    lastScanned := .whole 0
    error := [] }

/-- The summary of a batch with an awkward file reads back with its name and path. -/
theorem readTable?_csv_awkward :
    ∃ text record, summaryCsv ⟨1, 1, 1, 30, [awkwardReport], .whole 0, .whole 0⟩ = .ok text ∧
      readTable? text = some [summaryColumns, record] ∧ record.length = 8 ∧
      record.take 3 = ["\"a\"\r\n".toList, "a,b".toList, []] := by
  obtain ⟨hexists, hreads, -⟩ := readTable?_csv ⟨1, 1, 1, 30, [awkwardReport], .whole 0, .whole 0⟩
  obtain ⟨text, htext⟩ := hexists.mpr fun r hr => by
    obtain rfl := List.mem_singleton.mp hr
    exact ⟨by decide +kernel, by decide +kernel, by decide +kernel, ⟨_, rfl⟩, ⟨0, 0⟩, rfl, by decide, by decide⟩
  obtain ⟨records, hread, hrecords, -⟩ := hreads text htext
  obtain ⟨record, others, ⟨share, scanned, -, -, rfl⟩, hothers, rfl⟩ := List.forall₂_cons_left_iff.mp hrecords
  rw [List.forall₂_nil_left_iff.mp hothers] at hread
  exact ⟨text, _, htext, hread, rfl, rfl⟩

/-- A report with an integer of 4301 digits has no summary, and one with such a line has no details. -/
theorem csv_of_tooManyDigits :
    summaryCsv ⟨1, 1, 1, 30, [{ awkwardReport with estimatedFixTime := 10 ^ 4300 }], .whole 0, .whole 0⟩ =
        .error (.unwritable .tooManyDigits) ∧
      detailCsv ⟨1, 1, 1, 30, [{ awkwardReport with
          findings := [⟨.string, 10 ^ 4300, 0, [], [], ⟨[], "man".toList, .other, .low, [], rfl⟩⟩] }],
          .whole 0, .whole 0⟩ = .error (.unwritable .tooManyDigits) := by
  constructor <;> decide +kernel

end Export

end Wording
