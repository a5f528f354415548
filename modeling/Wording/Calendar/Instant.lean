import Wording.Calendar.Date
import Wording.Number.Quantity

/-!
Instants in universal time, to the microsecond, from quantities of seconds since 1970, and their text to
the millisecond. A quantity is rounded to microseconds and then cut.
-/

set_option autoImplicit false

namespace Wording

/-- An instant: whole seconds since 1970 and microseconds. -/
structure Instant where
  seconds : Int
  micros : Nat
deriving DecidableEq, Repr

namespace Instant

def secondsPerDay : Int := 86400

/-- Seconds of a finite binary number: the whole part, and the microseconds of the rest, which are first
rounded to a binary number and then to the nearest integer, a half to the even one. -/
def ofBinary (negative : Bool) (significand : Nat) (exponent : Int) : Instant :=
  let (n, d) := Number.Binary.fraction significand exponent
  let whole : Int := n / d
  let whole := if negative then -whole else whole
  let micros :=
    match Number.Binary.ofFraction false (n % d * 1000000) d with
    | .finite _ m e => let (n, d) := Number.Binary.fraction m e; Number.roundedQuotient n d
    | _ => 0
  if negative then
    if micros = 0 then ⟨whole, 0⟩ else ⟨whole - 1, 1000000 - micros⟩
  else if micros = 1000000 then ⟨whole + 1, 0⟩
  else ⟨whole, micros⟩

def date (i : Instant) : Date := Date.ofDays (i.seconds.fdiv secondsPerDay)

/-- An instant in the years 1 to 9999, which the clock and the calendar can hold. -/
def checked (i : Instant) : Except TimeError Instant :=
  if i.seconds < -Int.pow 2 63 || Int.pow 2 63 ≤ i.seconds then .error .beyondClock
  else
    let year := i.date.year
    if year - 1900 < -Int.pow 2 31 || Int.pow 2 31 ≤ year - 1900 then .error .beyondCalendar
    else if year < 1 || 9999 < year then .error (.yearOutOfRange year)
    else .ok i

/-- The instant of a quantity of seconds. -/
def ofQuantity : Number.Quantity → Except TimeError Instant
  | .whole n => checked ⟨n, 0⟩
  | .binary (.finite negative significand exponent) =>
    checked (ofBinary negative significand exponent)
  | .binary (.infinite _) => .error .beyondClock
  | .binary .undefined => .error .undefined

/-- Date and time of day to the millisecond, in universal time. -/
def text (i : Instant) : Text :=
  let second := (i.seconds - i.seconds.fdiv secondsPerDay * secondsPerDay).toNat
  i.date.text ++ 'T' :: Date.padded 2 (second / 3600) ++ ':' :: Date.padded 2 (second / 60 % 60)
    ++ ':' :: Date.padded 2 (second % 60) ++ '.' :: Date.padded 3 (i.micros / 1000) ++ ['Z']

end Instant

/-- The text of the instant of a quantity of seconds. -/
def timeText (q : Number.Quantity) : Except TimeError Text := (Instant.ofQuantity q).map Instant.text

end Wording
