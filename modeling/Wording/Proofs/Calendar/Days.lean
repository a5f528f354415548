import Mathlib.Order.Monotone.Basic
import Mathlib.Tactic.IntervalCases
import Wording.Calendar.Reader
import Wording.Proofs.Calendar.Range

/-! # Days and dates

A date is found from the number of its day by cutting eras of 400 years, that begin in March, into centuries, cycles of
four years and years; the days up to a date are counted along the calendar, from January on. The two directions meet in
`toDays_ofDays`: a date that was found is in the calendar and has as many days before it as its number says.

Each direction is brought to a closed form first. The days of so many years and of so many months are `daysOfYears_eq`
and `daysOfMonths_eq`, by induction on the years and by cases on the months. A day of an era has a place in it,
`IsPlaceInEra`, of which the quotients are those that the program divides by, since beginning years in March puts the
leap day at the end of each count. The two forms are then compared by `daysBefore_ofMarchYear`, where the 306 days from
March on stand between them.

Later dates have more days before them (`InCalendar.daysBefore_lt_of_before`), so that the order of dates is the order
of their days, in which nothing of the eras is left.
-/

set_option autoImplicit false

namespace Wording

namespace Date

/-! ## Years and months -/

theorem isLeap_iff {year : Int} : isLeap year = true ↔ year % 4 = 0 ∧ (year % 100 ≠ 0 ∨ year % 400 = 0) := by
  simp only [isLeap, Bool.and_eq_true, Bool.or_eq_true, decide_eq_true_eq]

/-- Every fourth year has one day more, but of the hundredth years only every fourth. -/
theorem daysOfYears_eq (years : Nat) : daysOfYears years = 365 * years + years / 4 - years / 100 + years / 400 := by
  induction years with
  | zero => rfl
  | succ years ih =>
    have hleap := @isLeap_iff (years + 1 : Nat)
    rw [daysOfYears, ih, daysOfYear]
    split
    all_goals
      next h =>
        rw [hleap] at h
        omega

/-- January and February have 59 days, with the leap day 60, and each five months from March on have 153. -/
theorem daysOfMonths_eq {year : Int} {months : Nat} (hfirst : 2 ≤ months) (hlast : months ≤ 12) :
    daysOfMonths year months = (if isLeap year then 60 else 59) + (153 * (months - 2) + 2) / 5 := by
  cases hleap : isLeap year <;> interval_cases months <;> simp [daysOfMonths, daysOfMonth, hleap]

theorem daysOfMonths_twelve (year : Int) : daysOfMonths year 12 = daysOfYear year := by
  rw [daysOfMonths_eq (by decide) (by decide), daysOfYear]
  split <;> rfl

/-! ## Dates of the calendar -/

/-- That a date is in the calendar, in the years 1 to 9999. -/
structure InCalendar (d : Date) : Prop where
  year : 1 ≤ d.year ∧ d.year ≤ 9999
  month : 1 ≤ d.month ∧ d.month ≤ 12
  day : 1 ≤ d.day ∧ d.day ≤ daysOfMonth d.year d.month

/-- That a date is before another one: by the year, then by the month, then by the day. -/
def Before (d e : Date) : Prop :=
  d.year < e.year ∨ d.year = e.year ∧ (d.month < e.month ∨ d.month = e.month ∧ d.day < e.day)

variable {d e : Date}

/-- A date of the calendar is made from its year, its month and its day. -/
theorem InCalendar.make_eq (h : d.InCalendar) : make d.year d.month d.day = .ok d := by
  obtain ⟨⟨hyear, hyear'⟩, ⟨hmonth, hmonth'⟩, hday, hday'⟩ := h
  have hlast : (d.day : Int) ≤ daysOfMonth d.year d.month := by exact_mod_cast hday'
  simp only [make, Int.toNat_natCast]
  rw [if_neg, if_neg, if_neg]
  all_goals
    simp only [Bool.or_eq_true, decide_eq_true_eq]
    omega

theorem monotone_daysOfMonths (year : Int) : Monotone (daysOfMonths year) :=
  monotone_nat_of_le_succ fun _ => Nat.le_add_right _ _

theorem monotone_daysOfYears : Monotone daysOfYears :=
  monotone_nat_of_le_succ fun _ => Nat.le_add_right _ _

theorem InCalendar.dayOfYear_lt (h : d.InCalendar) :
    daysOfMonths d.year (d.month - 1) + (d.day - 1) < daysOfMonths d.year d.month := by
  obtain ⟨-, ⟨hmonth, -⟩, hday, hday'⟩ := h
  obtain ⟨months, hmonths⟩ := Nat.exists_eq_add_of_le' hmonth
  rw [hmonths] at hday' ⊢
  rw [daysOfMonths, Nat.add_sub_cancel]
  omega

theorem InCalendar.daysBefore_lt (h : d.InCalendar) : d.daysBefore < daysOfYears d.year.toNat := by
  have hfirst := h.year.1
  obtain ⟨years, hyears⟩ : ∃ years : Nat, d.year = (years + 1 : Nat) := ⟨(d.year - 1).toNat, by omega⟩
  have hpast : (d.year - 1).toNat = years := by omega
  have hmonth := h.dayOfYear_lt
  have hyear := monotone_daysOfMonths d.year h.month.2
  rw [daysOfMonths_twelve] at hyear
  rw [daysBefore, hpast, hyears, Int.toNat_natCast, daysOfYears, ← hyears]
  omega

theorem InCalendar.daysBefore_lt_of_before (hd : d.InCalendar) (h : d.Before e) :
    d.daysBefore < e.daysBefore := by
  rcases h with hyear | ⟨hyear, hmonth | ⟨hmonth, hday⟩⟩
  · have hyears : daysOfYears d.year.toNat ≤ daysOfYears (e.year - 1).toNat := monotone_daysOfYears (by omega)
    have hend := hd.daysBefore_lt
    rw [daysBefore.eq_def e]
    omega
  · have hmonths : daysOfMonths e.year d.month ≤ daysOfMonths e.year (e.month - 1) :=
      monotone_daysOfMonths e.year (by omega)
    have hend := hd.dayOfYear_lt
    rw [hyear] at hend
    rw [daysBefore, daysBefore, hyear]
    omega
  · have hfirst := hd.day.1
    rw [daysBefore, daysBefore, hyear, hmonth]
    omega

theorem eq_or_before_or_before (d e : Date) : d = e ∨ d.Before e ∨ e.Before d := by
  obtain ⟨year, month, day⟩ := d
  obtain ⟨year', month', day'⟩ := e
  simp only [Date.mk.injEq, Before]
  omega

/-- Of two dates of the calendar, the one with fewer days before it is before the other. -/
theorem InCalendar.before_iff (hd : d.InCalendar) (he : e.InCalendar) : d.Before e ↔ d.daysBefore < e.daysBefore := by
  refine ⟨hd.daysBefore_lt_of_before, fun hlt => ?_⟩
  rcases eq_or_before_or_before d e with rfl | hbefore | hafter
  · exact absurd hlt (lt_irrefl _)
  · exact hbefore
  · exact absurd hlt (he.daysBefore_lt_of_before hafter).asymm

/-- Two dates of the calendar are one date if they have as many days before them. -/
theorem InCalendar.eq_iff (hd : d.InCalendar) (he : e.InCalendar) : d = e ↔ d.daysBefore = e.daysBefore := by
  refine ⟨congrArg daysBefore, fun heq => ?_⟩
  rcases eq_or_before_or_before d e with hsame | hbefore | hafter
  · exact hsame
  · exact absurd heq (hd.daysBefore_lt_of_before hbefore).ne
  · exact absurd heq (he.daysBefore_lt_of_before hafter).ne'

/-! ## Days of an era -/

/-- That a day of an era is this day of the year that begins in March, of this year of a cycle of four, of this cycle of
a century. Only the last year of a cycle has a day more, and not if it is the last one of a century other than the last
one. -/
structure IsPlaceInEra (day century cycle year dayOfYear : Nat) : Prop where
  day_eq : day = 36524 * century + 1461 * cycle + 365 * year + dayOfYear
  century_le : century ≤ 3
  cycle_le : cycle ≤ 24
  year_le : year ≤ 3
  dayOfYear_le : dayOfYear ≤ 364 ∨ dayOfYear = 365 ∧ year = 3 ∧ (cycle ≤ 23 ∨ century = 3)

/-- Each day of an era has its place. -/
theorem exists_isPlaceInEra {day : Nat} (h : day < daysPerEra) :
    ∃ century cycle year dayOfYear, IsPlaceInEra day century cycle year dayOfYear := by
  unfold daysPerEra at h
  by_cases hlast : day = 146096
  · refine ⟨3, 24, 3, 365, ?_⟩
    constructor <;> omega
  · by_cases hleap : day % 36524 % 1461 = 1460
    · refine ⟨day / 36524, day % 36524 / 1461, 3, 365, ?_⟩
      constructor <;> omega
    · refine ⟨day / 36524, day % 36524 / 1461, day % 36524 % 1461 / 365, day % 36524 % 1461 % 365, ?_⟩
      constructor <;> omega

variable {day century cycle year dayOfYear : Nat}

/-- The year of a day of an era: without the days that cycles and centuries add and take, all years have 365 days. -/
theorem IsPlaceInEra.yearOfEra_eq (h : IsPlaceInEra day century cycle year dayOfYear) :
    (day - day / 1460 + day / 36524 - day / 146096) / 365 = 100 * century + 4 * cycle + year := by
  obtain ⟨hday, hcentury, hcycle, hyear, hlast⟩ := h
  -- The last day of an era is the only one that is counted to a fifth century.
  have hcenturies : day / 36524 - day / 146096 = century := by
    by_cases hend : day = 146096
    · subst hend
      omega
    · have hbelow : day < 146096 ∧ day < 36524 * (century + 1) := by omega
      rw [Nat.div_eq_of_lt hbelow.1, Nat.sub_zero]
      exact Nat.div_eq_of_lt_le (by omega) (by omega)
  have hcycles : day / 1460 =
      25 * century + cycle + if 24 * century + cycle + 365 * year + dayOfYear < 1460 then 0 else 1 := by
    split <;> omega
  split at hcycles <;> omega

/-- The days of the years before the year of a day of an era, and the days of that year up to it, are the days of the
eras before and the days of the era up to it. -/
theorem IsPlaceInEra.daysOfYears_add (h : IsPlaceInEra day century cycle year dayOfYear) (era : Nat) :
    daysOfYears (100 * century + 4 * cycle + year + era * 400) + dayOfYear = era * daysPerEra + day := by
  obtain ⟨hday, hcentury, hcycle, hyear, -⟩ := h
  have hcycles : (100 * century + 4 * cycle + year + era * 400) / 4 = 25 * century + cycle + 100 * era := by omega
  have hcenturies : (100 * century + 4 * cycle + year + era * 400) / 100 = century + 4 * era := by omega
  have heras : (100 * century + 4 * cycle + year + era * 400) / 400 = era := by omega
  rw [daysOfYears_eq, hcycles, hcenturies, heras, daysPerEra, hday]
  omega

/-- The year that has one day more ends with the leap day of a year of the calendar. -/
theorem IsPlaceInEra.isLeap_of_lastDay (h : IsPlaceInEra day century cycle year 365) (era : Nat) :
    isLeap (100 * century + 4 * cycle + year + era * 400 + 1 : Nat) = true := by
  obtain ⟨-, hcentury, hcycle, -, hlast | ⟨-, rfl, hturn⟩⟩ := h
  · omega
  · refine isLeap_iff.mpr ⟨by omega, ?_⟩
    by_cases hcycle : cycle = 24
    · right
      omega
    · left
      omega

/-- The date of a day of a year that begins in March. -/
def ofMarchYear (year dayOfYear : Nat) : Date :=
  let shifted := (5 * dayOfYear + 2) / 153
  let month := if shifted < 10 then shifted + 3 else shifted - 9
  ⟨year + (if month ≤ 2 then 1 else 0), month, dayOfYear - (153 * shifted + 2) / 5 + 1⟩

/-- The date of a day of an era is the date of its place. -/
theorem IsPlaceInEra.ofDayOfEra_eq (h : IsPlaceInEra day century cycle year dayOfYear) (era : Nat) :
    ofDayOfEra era day = ofMarchYear (100 * century + 4 * cycle + year + era * 400) dayOfYear := by
  have hdayOfYear : day - (365 * (100 * century + 4 * cycle + year) + (100 * century + 4 * cycle + year) / 4 -
      (100 * century + 4 * cycle + year) / 100) = dayOfYear := by
    obtain ⟨hday, hcentury, hcycle, hyear, -⟩ := h
    omega
  rw [ofDayOfEra]
  simp only [h.yearOfEra_eq, hdayOfYear, ofMarchYear, Nat.cast_add, Nat.cast_mul, Nat.cast_ofNat]

theorem daysOfMonth_eq {shifted : Nat} (h : shifted ≤ 10) (year : Int) :
    daysOfMonth year (if shifted < 10 then shifted + 3 else shifted - 9) =
      (153 * (shifted + 1) + 2) / 5 - (153 * shifted + 2) / 5 := by
  interval_cases shifted <;> rfl

/-- The date of a day of a year that begins in March is in the calendar if its year is and the year has that day. -/
theorem inCalendar_ofMarchYear
    (hyear : 1 ≤ (ofMarchYear year dayOfYear).year ∧ (ofMarchYear year dayOfYear).year ≤ 9999)
    (hday : dayOfYear ≤ 364 ∨ dayOfYear = 365 ∧ isLeap (year + 1 : Nat) = true) :
    (ofMarchYear year dayOfYear).InCalendar := by
  have hlast : (5 * dayOfYear + 2) / 153 ≤ 11 := by omega
  refine ⟨hyear, ?_, Nat.le_add_left 1 _, ?_⟩
  · simp only [ofMarchYear]
    split <;> omega
  · rcases Nat.lt_or_eq_of_le hlast with hshifted | hshifted
    · simp only [ofMarchYear]
      rw [daysOfMonth_eq (by omega)]
      omega
    · -- February is the last month, and all that is left of the year is in it.
      simp only [ofMarchYear, hshifted]
      rcases hday with hday | ⟨rfl, hleap⟩
      · have hmonth : 28 ≤ daysOfMonth (year + 1) 2 := by
          rw [daysOfMonth, if_pos rfl]
          split
          all_goals decide
        exact le_trans (by omega) hmonth
      · have hmonth : daysOfMonth (year + 1 : Nat) 2 = 29 := by rw [daysOfMonth, if_pos rfl, if_pos hleap]
        exact hmonth.ge

/-- A year that begins in March begins 306 days before the next year of the calendar. -/
theorem daysBefore_ofMarchYear (hfirst : 1 ≤ year ∨ 306 ≤ dayOfYear) (hday : dayOfYear ≤ 365) :
    (ofMarchYear year dayOfYear).daysBefore + 306 = daysOfYears year + dayOfYear := by
  by_cases hturn : (5 * dayOfYear + 2) / 153 < 10
  · have hmonth : ¬ (5 * dayOfYear + 2) / 153 + 3 ≤ 2 := by omega
    obtain ⟨past, rfl⟩ := Nat.exists_eq_add_of_le' (show 1 ≤ year by omega)
    have hpast : (((past + 1 : Nat) : Int) + 0 - 1).toNat = past := by omega
    simp only [daysBefore, ofMarchYear, if_pos hturn, if_neg hmonth]
    rw [hpast, daysOfMonths_eq (by omega) (by omega), daysOfYears, daysOfYear, add_zero]
    split <;> omega
  · have hmonth : (5 * dayOfYear + 2) / 153 - 9 ≤ 2 := by omega
    have hpast : ((year : Int) + 1 - 1).toNat = year := by omega
    simp only [daysBefore, ofMarchYear, if_neg hturn, if_pos hmonth]
    rw [hpast]
    have hshifted : (5 * dayOfYear + 2) / 153 = 10 ∨ (5 * dayOfYear + 2) / 153 = 11 := by omega
    rcases hshifted with hshifted | hshifted
    · have hjanuary : daysOfMonths (year + 1) (10 - 9 - 1) = 0 := rfl
      rw [hshifted, hjanuary]
      omega
    · have hfebruary : daysOfMonths (year + 1) (11 - 9 - 1) = 31 := rfl
      rw [hshifted, hfebruary]
      omega

/-- The date of a day in the years 1 to 9999 is in the calendar, and the days up to it are as many as that day is. -/
theorem toDays_ofDays {days : Int} (h : 1 ≤ (ofDays days).year ∧ (ofDays days).year ≤ 9999) :
    (ofDays days).InCalendar ∧ (ofDays days).toDays = days := by
  obtain ⟨hfirst, -⟩ := (year_ofDays_mem_iff days).mp h
  obtain ⟨era, hera⟩ : ∃ era : Nat, (days + daysBeforeEpoch).fdiv daysPerEra = era := by
    refine ⟨((days + daysBeforeEpoch).fdiv daysPerEra).toNat, (Int.toNat_of_nonneg ?_).symm⟩
    exact Int.fdiv_nonneg (by unfold daysBeforeEpoch; omega) (by decide)
  have hcut : era * 146097 ≤ days + 719468 ∧ days + 719468 < era * 146097 + 146097 := by
    rw [Int.fdiv_eq_ediv_of_nonneg _ (by decide)] at hera
    unfold daysBeforeEpoch daysPerEra at hera
    omega
  obtain ⟨century, cycle, year, dayOfYear, hplace⟩ :=
    @exists_isPlaceInEra (days + 719468 - era * 146097).toNat (by unfold daysPerEra; omega)
  have hdate : ofDays days = ofMarchYear (100 * century + 4 * cycle + year + era * 400) dayOfYear := by
    rw [← hplace.ofDayOfEra_eq, ofDays]
    simp only [hera]
    rfl
  have hleap : dayOfYear = 365 → isLeap (100 * century + 4 * cycle + year + era * 400 + 1 : Nat) = true := by
    rintro rfl
    exact hplace.isLeap_of_lastDay era
  rw [hdate] at h ⊢
  refine ⟨inCalendar_ofMarchYear h (hplace.dayOfYear_le.imp_right fun hlast => ⟨hlast.1, hleap hlast.1⟩), ?_⟩
  have hyears := hplace.daysOfYears_add era
  have hday := hplace.day_eq
  have hturn : 1 ≤ 100 * century + 4 * cycle + year + era * 400 ∨ 306 ≤ dayOfYear := by omega
  have hcount := daysBefore_ofMarchYear hturn (hplace.dayOfYear_le.elim (by omega) (by omega))
  have hepoch : daysOfYears 1969 = 719162 := daysOfYears_eq 1969
  rw [daysPerEra] at hyears
  rw [toDays, hepoch]
  omega

end Date

end Wording
