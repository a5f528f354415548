import Wording.Calendar.Duration
import Wording.Proofs.Attempt
import Wording.Proofs.Text.Integer

/-!
Which durations have a text. Whatever the unit, no count but that of the hours can have too many digits, so a duration
has a text exactly if its whole hours can be written. A duration between none and one that has a text has one too.
-/

set_option autoImplicit false

namespace Wording

theorem Text.isWritable_of_lt_sixty {n : Int} (h : 0 ≤ n) (hlt : n < 60) : isWritable n = true :=
  isWritable_of_natAbs_le (by omega) (by decide +kernel : isWritable 60 = true)

section TwoUnits

variable {count rest : Int} {unit smaller : Char}

/-- A count of a unit with one of a smaller unit is the text of the first and, unless that is zero, of the other. -/
theorem twoUnits_eq_ok_iff (hrest : Text.isWritable rest = true) {t : Text} :
    twoUnits count unit rest smaller = .ok t ↔
      Text.isWritable count = true ∧
        Text.ofInt count ++ (if rest = 0 then [unit] else unit :: ' ' :: Text.ofInt rest ++ [smaller]) = t := by
  simp only [twoUnits, Attempt.bind_eq_ok_iff, Text.writeInt_eq_ok_iff]
  split
  · simp only [pure, Except.pure, Except.ok.injEq, and_assoc, exists_and_left, exists_eq_left']
  · simp only [Attempt.bind_eq_ok_iff, Text.writeInt_eq_ok_iff, hrest, true_and, exists_eq_left', pure, Except.pure,
      Except.ok.injEq, and_assoc, exists_and_left, List.append_assoc, List.cons_append]

/-- A count of a unit with one of a smaller one, which can be written, has a text if the first can be written. -/
theorem exists_twoUnits_iff (hrest : Text.isWritable rest = true) :
    (∃ t, twoUnits count unit rest smaller = .ok t) ↔ Text.isWritable count = true := by
  simp only [twoUnits_eq_ok_iff hrest, exists_and_left, exists_eq', and_true]

end TwoUnits

/-- A duration of some seconds has a text exactly if its whole hours can be written. -/
theorem exists_durationText_iff {seconds : Int} (h : 0 ≤ seconds) :
    (∃ t, durationText seconds = .ok t) ↔ Text.isWritable (seconds / 3600) = true := by
  rw [durationText]
  split
  next hlt =>
    refine iff_of_true ⟨_, Attempt.map_eq_ok_iff.mpr ⟨_, Text.writeInt_eq_ok_iff.mpr ⟨?_, rfl⟩, rfl⟩⟩ ?_
    · exact Text.isWritable_of_lt_sixty h hlt
    · exact Text.isWritable_of_lt_sixty (by omega) (by omega)
  split
  next hlt =>
    rw [exists_twoUnits_iff (Text.isWritable_of_lt_sixty (by omega) (by omega))]
    refine iff_of_true ?_ ?_
    · exact Text.isWritable_of_lt_sixty (by omega) (by omega)
    · exact Text.isWritable_of_lt_sixty (by omega) (by omega)
  next => exact exists_twoUnits_iff (Text.isWritable_of_lt_sixty (by omega) (by omega))

theorem exists_durationText_of_le {seconds bound : Int} (h : 0 ≤ seconds) (hle : seconds ≤ bound)
    (hbound : ∃ t, durationText bound = .ok t) : ∃ t, durationText seconds = .ok t := by
  rw [exists_durationText_iff (h.trans hle)] at hbound
  exact (exists_durationText_iff h).mpr (Text.isWritable_of_natAbs_le (by omega) hbound)

/-- A duration has no text for one reason only. -/
theorem failsWith_durationText (seconds : Int) :
    Attempt.FailsWith (fun why : Unwritable => why = .tooManyDigits) (durationText seconds) := by
  have hwrites : ∀ n, Attempt.FailsWith (fun why : Unwritable => why = .tooManyDigits) (Text.writeInt n) :=
    fun _ _ h => (Text.writeInt_eq_error_iff.mp h).2
  have htwo : ∀ count unit rest smaller,
      Attempt.FailsWith (fun why : Unwritable => why = .tooManyDigits) (twoUnits count unit rest smaller) := by
    intro count unit rest smaller
    refine Attempt.failsWith_bind_iff.mpr ⟨hwrites count, fun _ _ => ?_⟩
    split
    · exact Attempt.failsWith_ok _
    · exact Attempt.failsWith_bind_iff.mpr ⟨hwrites rest, fun _ _ => Attempt.failsWith_ok _⟩
  rw [durationText]
  split
  · exact Attempt.failsWith_map_iff.mpr (hwrites seconds)
  split
  · exact htwo _ _ _ _
  · exact htwo _ _ _ _

end Wording
