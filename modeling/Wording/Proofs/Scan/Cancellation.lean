import Wording.Proofs.Scan.Batch

/-! # What a signal leaves of a batch

A batch asks its signal before each source, so the source that is read while the signal comes is still finished and no
later one is begun. What is left are the first rows of the batch that nothing stops, with totals and an end of their
own; only the number of files is that of all sources.

Whatever the signal is, the sources that a batch comes to are the first so many of them (`reached_isPrefix`), and
everything that is said of a batch is said of the sources that it comes to. A signal that comes while a source is read
is one that is asked about the sources behind it alone.
-/

set_option autoImplicit false

namespace Wording.Scanner

variable (s : Scanner) (around : Surroundings) (sources : List Source)

/-- Whatever the signal, a batch comes to the first of its sources. -/
theorem reached_isPrefix (stop : Nat → Bool) (done : Nat) : reached stop done sources <+: sources := by
  induction sources generalizing done with
  | nil => exact List.prefix_rfl
  | cons source rest ih =>
    rw [reached]
    split
    · exact List.nil_prefix
    · exact List.cons_prefix_cons.mpr ⟨rfl, ih (done + 1)⟩

/-- With a signal that comes while source number `n` is read, a batch comes to the first `n` sources. -/
theorem reached_whileReading (n : Int) (done : Nat) :
    reached (whileReading n) done sources = sources.take (n.toNat - done) := by
  induction sources generalizing done with
  | nil => rw [reached, List.take_nil]
  | cons source rest ih =>
    rw [reached, whileReading]
    by_cases hcome : n ≤ done
    · have hnone : n.toNat - done = 0 := by omega
      rw [if_pos (decide_eq_true hcome), hnone, List.take_zero]
    · have hsome : n.toNat - done = n.toNat - (done + 1) + 1 := by omega
      rw [if_neg (mt of_decide_eq_true hcome), ih, hsome, List.take_succ_cons]

/-- That a batch of some sources ended after the first of them: its rows are the first ones of the batch that
nothing stops, all sources count as files, the other totals are those of the rows, the report is complete if
there are no other sources, and the scanner ends by the failures of these sources alone. -/
structure EndsAfter (s : Scanner) (around : Surroundings) (sources : List Source) (count : Nat)
    (outcome : BatchReport × Scanner) : Prop where
  files_eq : outcome.1.files = (s.scanBatch around never sources).1.files.take count
  scannedFiles_eq : outcome.1.scannedFiles = count
  addsUp : outcome.1.AddsUp sources.length s.settings.timePerFix
  estimatedTotalTime_eq :
    outcome.1.estimatedTotalTime = (outcome.1.files.map (·.estimatedFixTime)).sum
  isComplete_iff : outcome.1.isComplete = true ↔ count = sources.length
  scanner_eq : outcome.2 =
    { s with state :=
        if s.faults around (sources.take count) = [] then .completed else .partiallyFailed }

/-- Whatever the signal, a batch ends after the sources that it comes to. -/
theorem scanBatch_endsAfter (stop : Nat → Bool) :
    EndsAfter s around sources (reached stop 0 sources).length (s.scanBatch around stop sources) := by
  have htake : reached stop 0 sources = sources.take (reached stop 0 sources).length :=
    List.prefix_iff_eq_take.mp (reached_isPrefix sources stop 0)
  have hadds := s.scanBatch_addsUp around stop sources
  have hscanned : (s.scanBatch around stop sources).1.scannedFiles =
      (reached stop 0 sources).length := by
    rw [hadds.scannedFiles_eq, scanBatch_files, List.length_map]
  refine ⟨?_, hscanned, hadds, rfl, ?_, ?_⟩
  · rw [scanBatch_files, scanBatch_never_files, ← List.map_take, ← htake]
  · rw [BatchReport.isComplete, decide_eq_true_iff, hscanned, hadds.totalFiles_eq, Nat.cast_inj]
  · rw [← htake, ← scanBatch_state]
    rfl

/-- A batch whose signal comes while source number `n` is read ends after `n` sources, or after all if there
are fewer; if its signal comes beforehand, it ends before the first. -/
theorem scanBatch_whileReading_endsAfter (n : Int) :
    EndsAfter s around sources (min (max n 0).toNat sources.length)
      (s.scanBatch around (whileReading n) sources) := by
  have hcount : (reached (whileReading n) 0 sources).length =
      min (max n 0).toNat sources.length := by
    rw [reached_whileReading, Nat.sub_zero, List.length_take]
    omega
  rw [← hcount]
  exact s.scanBatch_endsAfter around sources (whileReading n)

end Wording.Scanner
