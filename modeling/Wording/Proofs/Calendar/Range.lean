import Wording.Calendar.Instant

/-! # The times that have a date

A day lies in the years 1 to 9999 exactly when it lies between the first day of the year 1 and the last day of the year
9999, and an instant is written exactly when its day does. So a quantity of seconds is written exactly when its instant,
to the microsecond, lies in these years.

The bounds on days come from the year of a day of an era alone (`year_ofDayOfEra`): at the two ends the year is known,
and in between it does not fall. The exporters and the command line only use `exists_timeText_iff`, the exact condition
on a quantity of seconds.
-/

set_option autoImplicit false

namespace Wording

namespace Date

/-- The year of a day of an era, counted from the year before the era begins in March: 0 before the first of January of
the year 1 and 400 from the first of January of the year 400 on. -/
theorem year_ofDayOfEra {era : Int} {day : Nat} (h : day < daysPerEra) :
    ∃ year : Nat, (ofDayOfEra era day).year = year + era * 400 ∧ year ≤ 400 ∧
      (1 ≤ year ↔ 306 ≤ day) ∧ (year ≤ 399 ↔ day < 146037) := by
  unfold daysPerEra at h
  let yearOfEra := (day - day / 1460 + day / 36524 - day / 146096) / 365
  let dayOfYear := day - (365 * yearOfEra + yearOfEra / 4 - yearOfEra / 100)
  have hyear : yearOfEra ≤ 399 := by omega
  -- Only in the first and in the last year of the era does the turn of the year decide.
  have hfirst : yearOfEra = 0 → dayOfYear = day := by omega
  have hfirstDays : yearOfEra = 0 ↔ day < 365 := by omega
  have hlast : yearOfEra = 399 → dayOfYear = day - 145731 := by omega
  have hlastDays : yearOfEra = 399 ↔ 145731 ≤ day := by omega
  have hturn : (let shifted := (5 * dayOfYear + 2) / 153
      if shifted < 10 then shifted + 3 else shifted - 9) ≤ 2 ↔ 306 ≤ dayOfYear := by
    have hlength : dayOfYear ≤ 365 := by omega
    simp only
    split <;> omega
  refine ⟨yearOfEra + if 306 ≤ dayOfYear then 1 else 0, ?_, ?_, ?_, ?_⟩
  · have heq : (ofDayOfEra era day).year = (yearOfEra : Int) + era * 400 +
      (if (let shifted := (5 * dayOfYear + 2) / 153
        if shifted < 10 then shifted + 3 else shifted - 9) ≤ 2 then 1 else 0) := rfl
    rw [heq]
    simp only [hturn]
    split <;> omega
  all_goals split <;> omega

/-- A day lies in the years 1 to 9999 exactly when it is none before the first of January of the year 1 and none behind
the last of December of the year 9999. -/
theorem year_ofDays_mem_iff (days : Int) :
    (1 ≤ (ofDays days).year ∧ (ofDays days).year ≤ 9999) ↔ -719162 ≤ days ∧ days < 2932897 := by
  have hera : (days + daysBeforeEpoch).fdiv daysPerEra = (days + 719468) / 146097 :=
    Int.fdiv_eq_ediv_of_nonneg _ (by decide)
  have hday : (days + 719468 - (days + 719468) / 146097 * 146097).toNat < daysPerEra := by
    unfold daysPerEra
    omega
  obtain ⟨year, hyear, hle, hfirst, hlast⟩ := @year_ofDayOfEra ((days + 719468) / 146097) _ hday
  have hdate : (ofDays days).year = year + (days + 719468) / 146097 * 400 := by
    rw [← hyear, ofDays, hera]
    rfl
  rw [hdate]
  omega

end Date

namespace Instant

/-- That an instant lies in the years 1 to 9999: between the first second of the year 1 and the last one of the year
9999. -/
def InCalendar (i : Instant) : Prop := -62135596800 ≤ i.seconds ∧ i.seconds < 253402300800

/-- An instant lies in the years 1 to 9999 exactly when its date does. -/
theorem inCalendar_iff_year {i : Instant} : i.InCalendar ↔ 1 ≤ i.date.year ∧ i.date.year ≤ 9999 := by
  have hday : i.seconds.fdiv secondsPerDay = i.seconds / 86400 := Int.fdiv_eq_ediv_of_nonneg _ (by decide)
  rw [date, Date.year_ofDays_mem_iff, hday, InCalendar]
  omega

/-- The check of an instant lets through those in the years 1 to 9999. -/
theorem checked_eq_ok_iff {i j : Instant} : i.checked = .ok j ↔ i = j ∧ i.InCalendar := by
  constructor
  · intro h
    rw [checked] at h
    split at h
    · cases h
    · simp only at h
      split at h
      · cases h
      · split at h
        next => cases h
        next hyear =>
          cases h
          refine ⟨rfl, inCalendar_iff_year.mpr ?_⟩
          simpa only [Bool.or_eq_true, decide_eq_true_eq, not_or, Int.not_lt] using hyear
  · rintro ⟨rfl, hcalendar⟩
    obtain ⟨hfirst, hlast⟩ := inCalendar_iff_year.mp hcalendar
    obtain ⟨hbegin, hend⟩ := hcalendar
    have hclock : Int.pow 2 63 = 9223372036854775808 := rfl
    have hyears : Int.pow 2 31 = 2147483648 := rfl
    simp only [checked, hclock, hyears]
    rw [if_neg, if_neg, if_neg]
    all_goals
      simp only [Bool.or_eq_true, decide_eq_true_eq]
      omega

/-- The instant of a quantity of seconds, to the microsecond; the values beyond all numbers have none. -/
def nearest? : Number.Quantity → Option Instant
  | .whole n => some ⟨n, 0⟩
  | .binary (.finite negative significand exponent) => some (ofBinary negative significand exponent)
  | .binary _ => none

/-- A quantity of seconds has the instant that is nearest to it, if that lies in the years 1 to 9999. -/
theorem ofQuantity_eq_ok_iff {q : Number.Quantity} {i : Instant} :
    ofQuantity q = .ok i ↔ nearest? q = some i ∧ i.InCalendar := by
  have hchecked : ∀ nearest : Instant, nearest.checked = .ok i ↔ some nearest = some i ∧ i.InCalendar := by
    intro nearest
    rw [checked_eq_ok_iff, Option.some_inj]
    exact and_congr_right fun heq => by rw [heq]
  cases q with
  | whole n => exact hchecked ⟨n, 0⟩
  | binary x =>
    cases x with
    | finite negative significand exponent => exact hchecked (ofBinary negative significand exponent)
    | infinite negative => exact iff_of_false nofun nofun
    | undefined => exact iff_of_false nofun nofun

end Instant

/-- That a quantity of seconds since 1970 is a time in the years 1 to 9999, to the microsecond. -/
def Number.Quantity.InCalendar (q : Number.Quantity) : Prop :=
  ∃ i, Instant.nearest? q = some i ∧ i.InCalendar

/-- A time is written exactly when it lies in the years 1 to 9999. -/
theorem exists_timeText_iff {q : Number.Quantity} : (∃ t, timeText q = .ok t) ↔ q.InCalendar := by
  simp only [timeText, Number.Quantity.InCalendar, ← Instant.ofQuantity_eq_ok_iff]
  cases Instant.ofQuantity q with
  | ok i => exact iff_of_true ⟨i.text, rfl⟩ ⟨i, rfl⟩
  | error e => exact iff_of_false nofun nofun

end Wording
