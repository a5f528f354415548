import Wording.Console.ScanText
import Wording.Proofs.Calendar.Duration
import Wording.Proofs.Export.Csv
import Wording.Proofs.Scan.ByLine
import Wording.Proofs.Text.Digits

/-!
What a console is handed of a scan is well-formed. The grammar of marked-up text here is a narrow one: styles do not
stand inside each other, each is closed by its own tag, and a text from outside stands only where the marks around it
cannot become part of a tag with it: between the tags of a style, at the end, or before a gap and a style. That is all
that the program makes, if the words of terms are left by escaping as they are.

Each lemma on a text here has two halves, packed as `IsSound`: which faults can keep the text from being made, and that
it is well-formed if it is made. As long as the counts of a report can be written, a text that cannot be made is one
with too long a duration; which durations may be too long is left open, so that the same lemmas serve a report whose
times can all be written and one whose times cannot.
-/

set_option autoImplicit false

namespace Wording.Console

open Attempt (FailsWith failsWith_ok failsWith_bind_iff failsWith_map_iff failsWith_mapError_iff)

/-! ## Plain text -/

/-- That no character of a text can be part of a tag. -/
def IsPlain (t : Text) : Prop := ∀ c ∈ t, c ≠ '[' ∧ c ≠ ']' ∧ c ≠ '\\'

instance : DecidablePred IsPlain := fun t => List.decidableBAll _ t

theorem isPlain_append {first second : Text} : IsPlain (first ++ second) ↔ IsPlain first ∧ IsPlain second :=
  List.forall_mem_append

theorem isPlain_cons {c : Char} {t : Text} : IsPlain (c :: t) ↔ IsPlain [c] ∧ IsPlain t := by
  simp only [IsPlain, List.forall_mem_cons, List.not_mem_nil, false_implies, implies_true, and_true]

theorem isPlain_of_digits {t : Text} (h : ∀ c ∈ t, c.isDigit = true) : IsPlain t := by
  intro c hc
  refine ⟨?_, ?_, ?_⟩ <;>
  · rintro rfl
    exact absurd (h _ hc) (by decide)

theorem isPlain_replicate {c : Char} (h : IsPlain [c]) (n : Nat) : IsPlain (List.replicate n c) := by
  intro d hd
  obtain rfl := (List.mem_replicate.mp hd).2
  exact h d (List.mem_singleton_self d)

theorem isPlain_toDigits (n : Nat) : IsPlain (Nat.toDigits 10 n) :=
  isPlain_of_digits fun _ => Text.isDigit_of_mem_toDigits

theorem isPlain_ofInt (n : Int) : IsPlain (Text.ofInt n) := by
  cases n with
  | ofNat k => exact isPlain_toDigits k
  | negSucc k => exact isPlain_cons.mpr ⟨by decide, isPlain_toDigits (k + 1)⟩

theorem isPlain_integerText {n : Int} {t : Text} (h : integerText n = .ok t) : IsPlain t := by
  obtain ⟨-, rfl⟩ := Export.integerText_eq_ok_iff.mp h
  exact isPlain_ofInt n

theorem isPlain_signText (negative : Bool) : IsPlain (Number.signText negative) := by
  cases negative <;> decide

theorem isPlain_withPoint (places n : Nat) : IsPlain (Number.withPoint places n) := by
  have hpadded : ∀ count, IsPlain (List.replicate count '0' ++ Nat.toDigits 10 n) := fun count =>
    isPlain_append.mpr ⟨isPlain_replicate (by decide) count, isPlain_toDigits n⟩
  refine isPlain_append.mpr ⟨fun c hc => hpadded _ c (List.mem_of_mem_take hc), isPlain_cons.mpr ⟨by decide, ?_⟩⟩
  exact fun c hc => hpadded _ c (List.mem_of_mem_drop hc)

/-- A number with a fixed number of places is plain, even where it has none. -/
theorem isPlain_fixed (places : Nat) (x : Number.Binary) : IsPlain (x.fixed places) := by
  cases x with
  | finite negative significand exponent =>
    exact isPlain_append.mpr ⟨isPlain_signText negative, isPlain_withPoint _ _⟩
  | infinite negative => exact isPlain_append.mpr ⟨isPlain_signText negative, by decide⟩
  | undefined => exact (by decide : IsPlain "nan".toList)

theorem isPlain_twoUnits {count rest : Int} {unit smaller : Char} (hunit : IsPlain [unit])
    (hsmaller : IsPlain [smaller]) (hrest : Text.isWritable rest = true) {t : Text}
    (h : twoUnits count unit rest smaller = .ok t) : IsPlain t := by
  obtain ⟨-, rfl⟩ := (twoUnits_eq_ok_iff hrest).mp h
  refine isPlain_append.mpr ⟨isPlain_ofInt count, ?_⟩
  split
  · exact hunit
  · exact isPlain_append.mpr
      ⟨isPlain_cons.mpr ⟨hunit, isPlain_cons.mpr ⟨by decide, isPlain_ofInt rest⟩⟩, hsmaller⟩

theorem isPlain_secondsText {n : Int} {t : Text} (h : secondsText n = .ok t) : IsPlain t := by
  rw [secondsText, Attempt.mapError_eq_ok_iff, durationText] at h
  split at h
  · obtain ⟨digits, hdigits, rfl⟩ := Attempt.map_eq_ok_iff.mp h
    obtain ⟨-, rfl⟩ := Text.writeInt_eq_ok_iff.mp hdigits
    exact isPlain_append.mpr ⟨isPlain_ofInt n, by decide⟩
  split at h
  · exact isPlain_twoUnits (by decide) (by decide) (Text.isWritable_of_lt_sixty (by omega) (by omega)) h
  · exact isPlain_twoUnits (by decide) (by decide) (Text.isWritable_of_lt_sixty (by omega) (by omega)) h

/-! ## Marked-up text -/

def styleNames : List Text := ["blue", "bold", "cyan", "dim", "red", "yellow"].map String.toList

/-- That a text can stand between the tags of a style: it is plain or escaped. -/
def IsInside (escape : Text → Text) (t : Text) : Prop := IsPlain t ∨ ∃ u, t = escape u

/-- Well-formed marked-up text. -/
inductive IsMarkup (escape : Text → Text) : Text → Prop where
  | plain {t : Text} (h : IsPlain t) : IsMarkup escape t
  | escaped (t : Text) : IsMarkup escape (escape t)
  | gap {t rest : Text} (h : IsPlain t) (hrest : IsMarkup escape rest) : IsMarkup escape (t ++ rest)
  | styled {style inside rest : Text} (hstyle : style ∈ styleNames) (hinside : IsInside escape inside)
      (hrest : IsMarkup escape rest) : IsMarkup escape (styled style inside ++ rest)
  | before (t : Text) {gap style inside rest : Text} (hgap : IsPlain gap) (hne : gap ≠ []) (hstyle : style ∈ styleNames)
      (hinside : IsInside escape inside) (hrest : IsMarkup escape rest) :
      IsMarkup escape (escape t ++ gap ++ styled style inside ++ rest)

/-- That something handed to a console is well-formed: its text, or each cell, under plain titles and known styles. -/
def Printout.IsWellFormed (escape : Text → Text) : Printout → Prop
  | .text markup => IsMarkup escape markup
  | .table t =>
    IsPlain t.title ∧ (∀ c ∈ t.columns, IsPlain c.title ∧ (c.style = [] ∨ c.style ∈ styleNames)) ∧
      ∀ row ∈ t.rows, ∀ cell ∈ row, IsMarkup escape cell

variable {escape : Text → Text}

theorem isMarkup_styled {style inside : Text} (hstyle : style ∈ styleNames) (hinside : IsInside escape inside) :
    IsMarkup escape (styled style inside) := by
  have h := IsMarkup.styled hstyle hinside (.plain (List.forall_mem_nil _))
  rwa [List.append_nil] at h

theorem severityColour_mem (severity : Severity) : severityColour severity ∈ styleNames := by
  cases severity <;> decide

/-! ## What is handed over -/

/-- That the words of a term hold no markup: to escape them changes nothing. -/
structure HasPlainWords (escape : Text → Text) (t : Term) : Prop where
  text : escape t.text = t.text
  suggestions : escape (Text.listed t.suggestions) = Text.listed t.suggestions

/-- That a making fails for no other than some reasons, and else comes to something well-formed. -/
structure IsSound (escape : Text → Text) (allowed : ExportError → Prop) (making : Making) : Prop where
  failsWith : FailsWith allowed making
  wellFormed : ∀ what, making = .ok what → what.IsWellFormed escape

variable {allowed : ExportError → Prop}

theorem isSound_ok {what : Printout} (h : what.IsWellFormed escape) : IsSound escape allowed (.ok what) :=
  ⟨failsWith_ok what, fun _ hwhat => by cases hwhat; exact h⟩

theorem isSound_textOf {markup : Except ExportError Text} (hfails : FailsWith allowed markup)
    (h : ∀ t, markup = .ok t → IsMarkup escape t) : IsSound escape allowed (textOf markup) := by
  refine ⟨failsWith_map_iff.mpr hfails, fun what hwhat => ?_⟩
  obtain ⟨t, ht, rfl⟩ := Attempt.map_eq_ok_iff.mp hwhat
  exact h t ht

theorem failsWith_integerText {n : Int} (h : Text.isWritable n = true) : FailsWith allowed (integerText n) := by
  rw [integerText, Text.writeInt, if_pos h]
  exact failsWith_ok _

/-- That a file can be shown: its language is a plain word, its share is a binary number, its counts and the places of
its findings can be written, their terms have plain words, and its time has a text unless that is allowed to fail. -/
structure CanBeShown (escape : Text → Text) (allowed : ExportError → Prop) (r : FileReport) : Prop where
  language : IsPlain r.language
  share : ∃ x, r.biasPercentage = .binary x
  totalElements : Text.isWritable r.totalElements = true
  biasedElements : Text.isWritable r.biasedElements = true
  places : ∀ f ∈ r.findings, f.HasWritablePlace
  terms : ∀ f ∈ r.findings, HasPlainWords escape f.term
  time : FailsWith allowed (secondsText r.estimatedFixTime)

/-! ### The table of files -/

section Files

variable {r : FileReport}

theorem isMarkup_pathCell : IsMarkup escape (escape r.path ++ (if r.hasError then errorMark else [])) := by
  split
  · have h : IsMarkup escape (escape r.path ++ [' '] ++ styled "red".toList "(error)".toList ++ []) :=
      .before r.path (by decide) (List.cons_ne_nil _ _) (by decide) (.inl (by decide)) (.plain (List.forall_mem_nil _))
    rwa [List.append_nil, List.append_assoc, List.singleton_append] at h
  · rw [List.append_nil]
    exact .escaped _

theorem isMarkup_biasedCell {n : Int} {t : Text} (h : biasedCell n = .ok t) : IsMarkup escape t := by
  unfold biasedCell at h
  split at h
  · cases h
    exact .plain (by decide)
  · obtain ⟨digits, hdigits, rfl⟩ := Attempt.map_eq_ok_iff.mp h
    exact isMarkup_styled (by decide) (.inl (isPlain_integerText hdigits))

theorem isMarkup_of_mem_fileRow (hlanguage : IsPlain r.language) {row : List Text} (h : fileRow escape r = .ok row) :
    ∀ cell ∈ row, IsMarkup escape cell := by
  obtain ⟨biased, hbiased, h⟩ := Attempt.bind_eq_ok_iff.mp h
  obtain ⟨total, htotal, h⟩ := Attempt.bind_eq_ok_iff.mp h
  obtain ⟨share, hshare, h⟩ := Attempt.bind_eq_ok_iff.mp h
  obtain ⟨time, htime, ⟨⟩⟩ := Attempt.bind_eq_ok_iff.mp h
  obtain ⟨x, -, rfl⟩ := Attempt.map_eq_ok_iff.mp (Attempt.mapError_eq_ok_iff.mp hshare)
  simp only [List.forall_mem_cons, List.not_mem_nil, false_implies, implies_true, and_true]
  exact ⟨isMarkup_pathCell, .plain hlanguage, .plain (isPlain_integerText htotal), isMarkup_biasedCell hbiased,
    .plain (isPlain_fixed 1 x), .plain (isPlain_secondsText htime)⟩

theorem failsWith_fileRow (h : CanBeShown escape allowed r) : FailsWith allowed (fileRow escape r) := by
  obtain ⟨x, hx⟩ := h.share
  refine failsWith_bind_iff.mpr ⟨?_, fun _ _ => failsWith_bind_iff.mpr ⟨failsWith_integerText h.totalElements,
    fun _ _ => failsWith_bind_iff.mpr ⟨?_, fun _ _ => failsWith_bind_iff.mpr ⟨h.time, fun _ _ => failsWith_ok _⟩⟩⟩⟩
  · rw [biasedCell]
    split
    · exact failsWith_ok _
    · exact failsWith_map_iff.mpr (failsWith_integerText h.biasedElements)
  · rw [hx]
    exact failsWith_ok _

/-- The table of files that can be shown. -/
theorem isSound_files {reports : List FileReport} (h : ∀ r ∈ reports, CanBeShown escape allowed r) :
    IsSound escape allowed (files escape reports) := by
  rw [files]
  split
  · exact isSound_ok (isMarkup_styled (by decide) (.inl (by decide)))
  · refine ⟨failsWith_map_iff.mpr (Attempt.failsWith_mapM fun r hr => failsWith_fileRow (h r hr)), fun what hwhat => ?_⟩
    obtain ⟨rows, hrows, rfl⟩ := Attempt.map_eq_ok_iff.mp hwhat
    have htitle : IsPlain "Bias scan".toList := by decide
    have hcolumns : ∀ c ∈ fileColumns, IsPlain c.title ∧ (c.style = [] ∨ c.style ∈ styleNames) := by decide
    refine ⟨htitle, hcolumns, fun row hrow => ?_⟩
    obtain ⟨r, hr, hof⟩ := Attempt.exists_of_mem_mapM hrows hrow
    exact isMarkup_of_mem_fileRow (h r hr).language hof

end Files

/-! ### The findings of a file -/

section Details

variable {r : FileReport}

theorem isMarkup_heading : IsMarkup escape (heading escape r) :=
  .gap (t := ['\n']) (by decide) (isMarkup_styled (by decide) (.inr ⟨_, rfl⟩))

theorem isMarkup_errorLine :
    IsMarkup escape (heading escape r ++ ": ".toList ++ styled "red".toList (escape r.error)) := by
  rw [heading, ← List.singleton_append, List.append_assoc, List.append_assoc]
  exact .gap (by decide) (.styled (by decide) (.inr ⟨_, rfl⟩)
    (.gap (by decide) (isMarkup_styled (by decide) (.inr ⟨_, rfl⟩))))

theorem isMarkup_findingLine {f : Finding} (hterm : HasPlainWords escape f.term) {t : Text}
    (h : findingLine f = .ok t) : IsMarkup escape t := by
  obtain ⟨column, hcolumn, ⟨⟩⟩ := Attempt.bind_eq_ok_iff.mp h
  have hplace : IsPlain (" (".toList ++ Text.listed [f.term.category.text, f.kind.text, "col ".toList ++ column] ++
      ") → ".toList) := by
    have hcategory : IsPlain f.term.category.text := by cases f.term.category <;> decide
    have hkind : IsPlain f.kind.text := by cases f.kind <;> decide
    have hcolumn : IsPlain ("col ".toList ++ column) := isPlain_append.mpr ⟨by decide, isPlain_integerText hcolumn⟩
    simp only [Text.listed, Text.join, isPlain_append, hcategory, hkind, hcolumn, true_and, and_true]
    decide
  have hsuggestions : IsMarkup escape
      (if Text.listed f.term.suggestions = [] then ['-'] else Text.listed f.term.suggestions) := by
    split
    · exact .plain (by decide)
    · rw [← hterm.suggestions]
      exact .escaped _
  rw [List.append_assoc, List.append_assoc]
  exact .gap (isPlain_replicate (by decide) 9)
    (.styled (severityColour_mem _) (.inr ⟨_, hterm.text.symm⟩) (.gap hplace hsuggestions))

theorem isMarkup_contextLine {line : Int} {context t : Text} (h : contextLine escape line context = .ok t) :
    IsMarkup escape t := by
  obtain ⟨number, hnumber, rfl⟩ := Attempt.map_eq_ok_iff.mp h
  have hpadded : IsPlain (List.replicate (5 - number.length) ' ' ++ number) :=
    isPlain_append.mpr ⟨isPlain_replicate (by decide) _, isPlain_integerText hnumber⟩
  rw [List.append_assoc, List.append_assoc]
  exact .gap (by decide) (.styled (by decide) (.inl hpadded) (.gap (by decide) (.escaped context)))

/-- The findings of a file that can be shown. -/
theorem isSound_details (h : CanBeShown escape allowed r) {making : Making} (hmaking : making ∈ details escape r) :
    IsSound escape allowed making := by
  unfold details at hmaking
  split at hmaking
  · obtain rfl := List.mem_singleton.mp hmaking
    exact isSound_ok (isMarkup_errorLine)
  split at hmaking
  · cases hmaking
  obtain rfl | hmaking := List.mem_cons.mp hmaking
  · exact isSound_ok isMarkup_heading
  obtain ⟨group, hgroup, hmaking⟩ := List.mem_flatMap.mp hmaking
  have hmem : ∀ f, f ∈ r.findings.mergeSort (fun f g => f.line ≤ g.line) → f ∈ r.findings :=
    fun _ => List.mem_mergeSort.mp
  obtain hfirst | hmaking := List.mem_cons.mp hmaking
  · obtain ⟨f, hf, hline⟩ := FileReport.exists_line_of_mem_groupRuns hgroup
    have hwritable : Text.isWritable group.1 = true := by
      rw [← hline]
      exact (h.places f (hmem f hf)).1
    rw [hfirst]
    exact isSound_textOf (failsWith_map_iff.mpr (failsWith_integerText hwritable)) fun _ => isMarkup_contextLine
  · obtain ⟨f, hf, rfl⟩ := List.mem_map.mp hmaking
    have hfound : f ∈ r.findings := by
      refine hmem f ?_
      rw [← FileReport.flatMap_groupRuns (r.findings.mergeSort _)]
      exact List.mem_flatMap.mpr ⟨group, hgroup, hf⟩
    refine isSound_textOf ?_ fun _ => isMarkup_findingLine (h.terms f hfound)
    exact failsWith_bind_iff.mpr ⟨failsWith_integerText (h.places f hfound).2, fun _ _ => failsWith_ok _⟩

end Details

/-! ### The summary -/

/-- That a batch can be shown: each of its files can, its counts can be written, its duration is a binary number, and
its time has a text unless that is allowed to fail. -/
structure BatchCanBeShown (escape : Text → Text) (allowed : ExportError → Prop) (b : BatchReport) : Prop where
  files : ∀ r ∈ b.files, CanBeShown escape allowed r
  scannedFiles : Text.isWritable b.scannedFiles = true
  totalFiles : Text.isWritable b.totalFiles = true
  totalOccurrences : Text.isWritable b.totalOccurrences = true
  duration : ∃ x, b.scanDuration = .binary x
  time : FailsWith allowed (secondsText b.estimatedTotalTime)

section Summary

variable {b : BatchReport}

theorem isPlain_scannedLine {t : Text} (h : scannedLine b = .ok t) : IsPlain t := by
  obtain ⟨scanned, hscanned, h⟩ := Attempt.bind_eq_ok_iff.mp h
  obtain ⟨total, htotal, h⟩ := Attempt.bind_eq_ok_iff.mp h
  obtain ⟨seconds, -, ⟨⟩⟩ := Attempt.bind_eq_ok_iff.mp h
  simp only [isPlain_append, isPlain_cons (t := total), isPlain_integerText hscanned, isPlain_integerText htotal,
    isPlain_fixed, and_true]
  decide

theorem failsWith_scannedLine (h : BatchCanBeShown escape allowed b) : FailsWith allowed (scannedLine b) := by
  obtain ⟨x, hx⟩ := h.duration
  refine failsWith_bind_iff.mpr ⟨failsWith_integerText h.scannedFiles, fun _ _ =>
    failsWith_bind_iff.mpr ⟨failsWith_integerText h.totalFiles, fun _ _ =>
      failsWith_bind_iff.mpr ⟨?_, fun _ _ => failsWith_ok _⟩⟩⟩
  rw [hx]
  cases x <;> exact failsWith_ok _

/-- The summary of a batch that can be shown. -/
theorem isSound_summary (h : BatchCanBeShown escape allowed b) {making : Making} (hmaking : making ∈ summary b) :
    IsSound escape allowed making := by
  simp only [summary, List.mem_cons, List.mem_append, List.not_mem_nil, or_false] at hmaking
  obtain (hscanned | hmaking) | htotal | htime := hmaking
  · rw [hscanned]
    exact isSound_textOf (failsWith_scannedLine h) fun t ht => .plain (isPlain_scannedLine ht)
  · split at hmaking
    · cases hmaking
    · obtain rfl := List.mem_singleton.mp hmaking
      exact isSound_ok (isMarkup_styled (by decide) (.inl (isPlain_append.mpr ⟨isPlain_toDigits _, by decide⟩)))
  · rw [htotal]
    refine isSound_textOf (failsWith_map_iff.mpr (failsWith_integerText h.totalOccurrences)) fun t ht => ?_
    obtain ⟨count, hcount, rfl⟩ := Attempt.map_eq_ok_iff.mp ht
    exact .plain (isPlain_append.mpr ⟨by decide, isPlain_integerText hcount⟩)
  · rw [htime]
    refine isSound_textOf (failsWith_map_iff.mpr h.time) fun t ht => ?_
    obtain ⟨time, htime, rfl⟩ := Attempt.map_eq_ok_iff.mp ht
    exact .plain (isPlain_append.mpr ⟨by decide, isPlain_secondsText htime⟩)

end Summary

end Wording.Console
