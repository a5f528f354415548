import Wording.Text.Basic

/-!
Dates of the Gregorian calendar, continued in both directions, from days counted from the first of January
1970. Years are counted from March on inside, so that the leap day is the last day of its year.
-/

set_option autoImplicit false

namespace Wording

/-- Why there is no such date or instant in the years 1 to 9999. -/
inductive TimeError where
  | yearOutOfRange (year : Int)
  | monthOutOfRange
  | dayOutOfRange
  | beyondCalendar
  | beyondClock
  | undefined
deriving DecidableEq, Repr

def TimeError.message : TimeError → Text
  | .yearOutOfRange year => "year ".toList ++ Text.ofInt year ++ " is out of range".toList
  | .monthOutOfRange => "month must be in 1..12".toList
  | .dayOutOfRange => "day is out of range for month".toList
  | .beyondCalendar => "Value too large for defined data type".toList
  | .beyondClock => "timestamp out of range for platform time_t".toList
  | .undefined => "Invalid value NaN (not a number)".toList

/-- A date. -/
structure Date where
  year : Int
  month : Nat
  day : Nat
deriving DecidableEq, Repr

namespace Date

def isLeap (year : Int) : Bool := year % 4 = 0 && (year % 100 ≠ 0 || year % 400 = 0)

def daysOfMonth (year : Int) (month : Nat) : Nat :=
  if month = 2 then (if isLeap year then 29 else 28)
  else if [4, 6, 9, 11].contains month then 30
  else 31

/-- The date of a year, a month and a day, if the calendar has it. -/
def make (year month day : Int) : Except TimeError Date :=
  if year < 1 || 9999 < year then .error (.yearOutOfRange year)
  else if month < 1 || 12 < month then .error .monthOutOfRange
  else if day < 1 || daysOfMonth year month.toNat < day then .error .dayOutOfRange
  else .ok ⟨year, month.toNat, day.toNat⟩

def daysPerEra : Nat := 146097

/-- The days from the first of March of the year zero to the first of January 1970. -/
def daysBeforeEpoch : Int := 719468

/-- The date of a day of an era, whose years are counted from March on. -/
def ofDayOfEra (era : Int) (day : Nat) : Date :=
  let year := (day - day / 1460 + day / 36524 - day / 146096) / 365
  let dayOfYear := day - (365 * year + year / 4 - year / 100)
  let shifted := (5 * dayOfYear + 2) / 153
  let month := if shifted < 10 then shifted + 3 else shifted - 9
  ⟨(year : Int) + era * 400 + (if month ≤ 2 then 1 else 0), month,
   dayOfYear - (153 * shifted + 2) / 5 + 1⟩

/-- The date that lies a number of days after the first of January 1970. -/
def ofDays (days : Int) : Date :=
  let shifted := days + daysBeforeEpoch
  let era := shifted.fdiv daysPerEra
  ofDayOfEra era (shifted - era * daysPerEra).toNat

/-- A number padded with zeros to a least length. -/
def padded (length n : Nat) : Text :=
  let digits := Nat.toDigits 10 n
  List.replicate (length - digits.length) '0' ++ digits

/-- Year, month and day with hyphens between them. -/
def text (d : Date) : Text :=
  padded 4 d.year.toNat ++ '-' :: padded 2 d.month ++ '-' :: padded 2 d.day

end Date

end Wording
