import Wording.Calendar.Instant

/-!
A reader of time texts. The days up to a date are counted year by year and month by month, as long as the calendar has
them, from the first of January of the year 1 on. A text is read if it has the form `YYYY-MM-DDThh:mm:ss.fffZ`, its date
is in the calendar and its time of day on the clock.
-/

set_option autoImplicit false

namespace Wording

namespace Date

def daysOfYear (year : Int) : Nat := if isLeap year then 366 else 365

/-- The number of days of the first years, counted from the year 1 on. -/
def daysOfYears : Nat → Nat
  | 0 => 0
  | years + 1 => daysOfYears years + daysOfYear (years + 1 : Nat)

/-- The number of days of the first months of a year. -/
def daysOfMonths (year : Int) : Nat → Nat
  | 0 => 0
  | months + 1 => daysOfMonths year months + daysOfMonth year (months + 1)

/-- The number of days from the first of January of the year 1 to a date. -/
def daysBefore (d : Date) : Nat :=
  daysOfYears (d.year - 1).toNat + daysOfMonths d.year (d.month - 1) + (d.day - 1)

/-- The number of days from the first of January 1970 to a date, which is negative for the dates before. -/
def toDays (d : Date) : Int := d.daysBefore - daysOfYears 1969

end Date

namespace Instant

/-- The text with a zero for each of its digits. -/
def form (t : Text) : Text := t.map fun c => if c.isDigit then '0' else c

/-- The number that the digits at a place of a text write. -/
def number (t : Text) (place length : Nat) : Nat := Nat.ofDigitChars 10 ((t.drop place).take length) 0

/-- The instant that a text writes, to the millisecond. -/
def read? (t : Text) : Option Instant :=
  let hour := number t 11 2
  let minute := number t 14 2
  let second := number t 17 2
  match Date.make (number t 0 4) (number t 5 2) (number t 8 2) with
  | .error _ => none
  | .ok date =>
    if form t = "0000-00-00T00:00:00.000Z".toList ∧ hour < 24 ∧ minute < 60 ∧ second < 60 then
      some ⟨date.toDays * secondsPerDay + (hour * 3600 + minute * 60 + second : Nat), number t 20 3 * 1000⟩
    else none

end Instant

end Wording
