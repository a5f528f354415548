import Wording.Scan.Selection
import Wording.Proofs.Number.Value
import Wording.Proofs.StableSort
import Wording.Proofs.Text.Order
import Wording.Proofs.Text.Search

/-! # What a selection shows of the reports on files

A selection shows the reports that pass all of its filters, each as often as it was given, sorted by the key of its
column: words rise along the list, numbers fall. Reports with one key keep their order in either direction, and a
selection of what it shows is the same list.

The direction of a column is part of the type of its key, `Key`, so that one statement serves all columns, and the sort
is the stable one by that key. Shares are compared by their values, as they may be whole or binary numbers; the bands of
bias are intervals of these values, open or closed as `BiasBand.Covers` says. A second selection changes nothing because
a list has one stable sort and a sorted list is its own.
-/

set_option autoImplicit false

namespace Wording

/-! ## Filters -/

/-- The percentages that a band covers, the upper end included. -/
def BiasBand.Covers (percentage : ℚ) : BiasBand → Prop
  | .high => 10 < percentage
  | .medium => 5 < percentage ∧ percentage ≤ 10
  | .low => 0 < percentage ∧ percentage ≤ 5
  | .none => percentage = 0

instance (band : BiasBand) (percentage : ℚ) : Decidable (band.Covers percentage) :=
  match band with
  | .high => inferInstanceAs (Decidable (_ < _))
  | .medium => inferInstanceAs (Decidable (_ ∧ _))
  | .low => inferInstanceAs (Decidable (_ ∧ _))
  | .none => inferInstanceAs (Decidable (_ = _))

theorem BiasBand.within_iff {least greatest : Int} {q : Number.Quantity} (hq : q.IsFinite) :
    within least greatest q = true ↔ least < q.value ∧ q.value ≤ greatest := by
  simp only [within, Bool.and_eq_true, Bool.not_eq_true', ← Bool.not_eq_true,
    Number.Quantity.lt_iff (Number.Quantity.isFinite_whole _) hq, Number.Quantity.value_whole, not_lt]

theorem BiasBand.holds_iff (band : BiasBand) {q : Number.Quantity} (hq : q.IsFinite) :
    band.holds q = true ↔ band.Covers q.value := by
  cases band with
  | high =>
    rw [holds, Number.Quantity.lt_iff (Number.Quantity.isFinite_whole 10) hq, Number.Quantity.value_whole]
    rfl
  | low =>
    rw [holds, within_iff hq]
    simp only [Covers, Int.cast_zero, Int.cast_ofNat]
  | medium =>
    rw [holds, within_iff hq]
    simp only [Covers, Int.cast_ofNat]
  | none => exact Number.Quantity.any_num_eq_zero_iff hq

namespace Selection

/-- That a report passes all filters of a selection: it is in the language, its name or path holds the text that is
searched for, letter case aside, and its percentage is covered by the band, as far as these are given. -/
def Accepts (s : Selection) (r : FileReport) : Prop :=
  (s.language = [] ∨ r.language = Text.lower s.language) ∧
  (s.search = [] ∨ Text.lower s.search <:+: Text.lower r.name ∨ Text.lower s.search <:+: Text.lower r.path) ∧
  ∀ band ∈ s.band, band.Covers r.biasPercentage.value

instance (s : Selection) : DecidablePred s.Accepts := fun _ => inferInstanceAs (Decidable (_ ∧ _ ∧ _))

/-- Reports with a finite percentage are admitted if they pass all filters. -/
theorem admits_iff (s : Selection) {r : FileReport} (hr : r.biasPercentage.IsFinite) :
    s.admits r = true ↔ s.Accepts r := by
  simp only [admits, Accepts, Bool.and_eq_true, Bool.or_eq_true, decide_eq_true_eq, Text.contains_iff,
    Option.all_eq_true, Option.mem_def, BiasBand.holds_iff _ hr, or_assoc, and_assoc]

end Selection

/-! ## Columns -/

namespace SortColumn

/-- What a column sorts by: numbers from the greatest down, words from the first up. -/
def Key : SortColumn → Type
  | .bias => ℚᵒᵈ
  | .elements | .occurrences | .time => ℤᵒᵈ
  | .language | .name => Text

instance (c : SortColumn) : LinearOrder c.Key :=
  match c with
  | .bias => inferInstanceAs (LinearOrder ℚᵒᵈ)
  | .elements | .occurrences | .time => inferInstanceAs (LinearOrder ℤᵒᵈ)
  | .language | .name => inferInstanceAs (LinearOrder (List Char))

/-- The key of a report in a column; names count without letter case. -/
def key (r : FileReport) : (c : SortColumn) → c.Key
  | .bias => OrderDual.toDual r.biasPercentage.value
  | .elements => OrderDual.toDual r.totalElements
  | .language => r.language
  | .name => Text.lower r.name
  | .occurrences => OrderDual.toDual r.biasedElements
  | .time => OrderDual.toDual r.estimatedFixTime

/-- Reports with finite percentages are compared by their keys. -/
theorem mayPrecede_iff (c : SortColumn) {a b : FileReport} (ha : a.biasPercentage.IsFinite)
    (hb : b.biasPercentage.IsFinite) : c.mayPrecede a b = true ↔ c.key a ≤ c.key b := by
  cases c with
  | bias =>
    rw [mayPrecede, Bool.not_eq_true', ← Bool.not_eq_true, Number.Quantity.lt_iff ha hb]
    exact not_lt
  | elements => exact decide_eq_true_iff
  | language => exact Text.le_iff
  | name => exact Text.le_iff
  | occurrences => exact decide_eq_true_iff
  | time => exact decide_eq_true_iff

end SortColumn

namespace Selection

variable {s : Selection} {reports : List FileReport}

/-- What a selection shows is the stable sort of the reports that pass its filters. -/
theorem isStableSort_apply (h : ∀ r ∈ reports, r.biasPercentage.IsFinite) :
    IsStableSort s.sortBy.key (reports.filter fun r => s.Accepts r) (s.apply reports) := by
  have hfilter : reports.filter s.admits = reports.filter fun r => s.Accepts r :=
    List.filter_congr fun r hr => by rw [Bool.eq_iff_iff, s.admits_iff (h r hr), decide_eq_true_eq]
  have hfinite : ∀ r ∈ reports.filter s.Accepts, r.biasPercentage.IsFinite :=
    fun r hr => h r (List.mem_filter.mp hr).1
  rw [apply, hfilter]
  exact isStableSort_mergeSort fun a ha b hb => s.sortBy.mayPrecede_iff (hfinite a ha) (hfinite b hb)

/-- A selection of what it shows is the same list. -/
theorem apply_apply (h : ∀ r ∈ reports, r.biasPercentage.IsFinite) :
    s.apply (s.apply reports) = s.apply reports := by
  have hsorted : IsStableSort s.sortBy.key _ (s.apply reports) := isStableSort_apply h
  have hshown : ∀ r ∈ s.apply reports, r ∈ reports ∧ s.Accepts r := fun r hr => by
    rw [hsorted.perm.mem_iff, List.mem_filter, decide_eq_true_eq] at hr
    exact hr
  have hall : (s.apply reports).filter (fun r => s.Accepts r) = s.apply reports :=
    List.filter_eq_self.mpr fun r hr => decide_eq_true (hshown r hr).2
  have hagain := isStableSort_apply (s := s) fun r hr => h r (hshown r hr).1
  rw [hall] at hagain
  exact hagain.unique (isStableSort_self hsorted.ordered)

/-- Of the files of a batch, a selection shows those that pass its filters, each as often as it is there, sorted by the
key of its column, and files with one key in the order of the batch. Selecting again changes nothing. -/
theorem apply_files_sorted (s : Selection) (b : BatchReport) (h : ∀ r ∈ b.files, r.biasPercentage.IsFinite) :
    IsStableSort s.sortBy.key (b.files.filter fun r => s.Accepts r) (s.apply b.files) ∧
      s.apply (s.apply b.files) = s.apply b.files :=
  ⟨isStableSort_apply h, apply_apply h⟩

/-- A batch of five files: two of one percentage, one above them, one in another language and one below the band. -/
def unevenBatch : BatchReport where
  totalFiles := 5
  scannedFiles := 5
  totalOccurrences := 15
  estimatedTotalTime := 450
  files :=
    [("b.py", "python", .binary (.finite false 3 3)), ("a.js", "javascript", .whole 90), ("A.py", "python", .whole 24),
      ("c.py", "python", .whole 75), ("d.py", "python", .whole 7)].map fun (name, language, percentage) =>
        ⟨String.toList name, String.toList name, String.toList language, 4, 3, percentage, 90, [], .whole 0, []⟩
  scanDuration := .whole 0
  timestamp := .whole 0

/-- The selection of the files in Python whose percentage is high, the highest first. -/
def highInPython : Selection := { language := "Python".toList, search := "PY".toList, band := some .high }

/-- Of an uneven batch the files with the highest percentages come first, and those of one percentage as they were. -/
theorem apply_files_sorted_uneven :
    (∀ r ∈ unevenBatch.files, r.biasPercentage.IsFinite) ∧
      (highInPython.apply unevenBatch.files).map (·.name) = ["c.py", "b.py", "A.py"].map String.toList ∧
      IsStableSort highInPython.sortBy.key (unevenBatch.files.filter fun r => highInPython.Accepts r)
        (highInPython.apply unevenBatch.files) ∧
      highInPython.apply (highInPython.apply unevenBatch.files) = highInPython.apply unevenBatch.files := by
  have hfinite : ∀ r ∈ unevenBatch.files, r.biasPercentage.IsFinite := by decide
  have hadmitted : unevenBatch.files.filter highInPython.admits =
      [("b.py", .binary (.finite false 3 3)), ("A.py", .whole 24), ("c.py", .whole 75)].map fun (name, percentage) =>
        ⟨String.toList name, String.toList name, "python".toList, 4, 3, percentage, 90, [], .whole 0, []⟩ := rfl
  have hcolumn : ∀ a b : FileReport,
      highInPython.sortBy.mayPrecede a b = !a.biasPercentage.lt b.biasPercentage := fun _ _ => rfl
  have htie : Number.Quantity.lt (.binary (.finite false 3 3)) (.whole 24) = false := by decide
  have hlow : Number.Quantity.lt (.binary (.finite false 3 3)) (.whole 75) = true := by decide
  refine ⟨hfinite, ?_, apply_files_sorted highInPython unevenBatch hfinite⟩
  rw [apply, hadmitted]
  simp [List.mergeSort, hcolumn, htie, hlow]

end Selection

end Wording
