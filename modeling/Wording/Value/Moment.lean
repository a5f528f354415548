import Wording.Calendar.Date
import Wording.Text.Basic

/-!
Dates with a time of day, as settings documents can hold them. The clock that a time is read from may be said to stand
a number of minutes before universal time; in messages that offset is a value of its own inside the time, and the
difference that it is made of another one inside the offset.
-/

set_option autoImplicit false

namespace Wording

/-- A date with a time of day, to the microsecond, and the minutes by which its clock is before universal time, if that
is said. -/
structure Moment where
  date : Date
  hour : Nat
  minute : Nat
  second : Nat
  micros : Nat
  offset : Option Int
deriving DecidableEq, Repr

/-- The form in which messages show a date. -/
def Date.shown (d : Date) : Text :=
  "datetime.date(".toList ++ Text.listed [Text.ofInt d.year, Nat.toDigits 10 d.month, Nat.toDigits 10 d.day] ++ [')']

namespace Moment

/-- A difference of minutes: whole days, which may be negative, and the seconds of the rest. Of the two, what is zero
is left out. -/
def shownDifference (minutes : Int) : Text :=
  let days := minutes.fdiv 1440
  let seconds := (minutes - days * 1440) * 60
  let parts := [("days=", days), ("seconds=", seconds)].filterMap fun (name, n) =>
    if n = 0 then none else some (name.toList ++ Text.ofInt n)
  "datetime.timedelta(".toList ++ (if parts = [] then ['0'] else Text.listed parts) ++ [')']

/-- An offset; universal time has a name. -/
def shownOffset (minutes : Int) : Text :=
  if minutes = 0 then "datetime.timezone.utc".toList
  else "datetime.timezone(".toList ++ shownDifference minutes ++ [')']

/-- The form in which messages show a date with a time of day. Seconds and microseconds are left out where they are
zero, but not the seconds before microseconds. -/
def shown (m : Moment) : Text :=
  let least := [Text.ofInt m.date.year] ++ [m.date.month, m.date.day, m.hour, m.minute].map (Nat.toDigits 10)
  let rest :=
    if m.micros ≠ 0 then [m.second, m.micros] else if m.second ≠ 0 then [m.second] else []
  "datetime.datetime(".toList ++
    Text.listed (least ++ rest.map (Nat.toDigits 10) ++
      (m.offset.map fun minutes => "tzinfo=".toList ++ shownOffset minutes).toList) ++ [')']

/-- How many values stand inside each other where a date with a time of day is shown. -/
def levels (m : Moment) : Nat :=
  match m.offset with
  | none => 1
  | some minutes => if minutes = 0 then 2 else 3

/-- Date and time of day as a text, with the offset in hours and minutes. -/
def text (m : Moment) : Text :=
  let clock (minutes : Nat) : Text := Date.padded 2 (minutes / 60) ++ ':' :: Date.padded 2 (minutes % 60)
  m.date.text ++ ' ' :: clock (m.hour * 60 + m.minute) ++ ':' :: Date.padded 2 m.second ++
    (if m.micros = 0 then [] else '.' :: Date.padded 6 m.micros) ++
    m.offset.elim [] fun minutes => (if minutes < 0 then '-' else '+') :: clock minutes.natAbs

end Moment

end Wording
