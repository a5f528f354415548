import Wording.Text.Integer

/-!
Texts of durations. The two greatest units that fit are written, and the smaller of them only if it is not zero, so that
seconds are dropped from the first hour on. A duration can be so long that the count of its greatest unit has too many
digits.
-/

set_option autoImplicit false

namespace Wording

/-- A count of a unit, and behind it a count of a smaller one unless that is zero. -/
def twoUnits (count : Int) (unit : Char) (rest : Int) (smaller : Char) : Except Unwritable Text := do
  let greater ← Text.writeInt count
  if rest = 0 then pure (greater ++ [unit])
  else pure (greater ++ unit :: ' ' :: (← Text.writeInt rest) ++ [smaller])

/-- The text of a number of seconds; below a minute, and below zero, it is in seconds alone. -/
def durationText (seconds : Int) : Except Unwritable Text :=
  if seconds < 60 then (Text.writeInt seconds).map fun t => t ++ ['s']
  else if seconds < 3600 then twoUnits (seconds / 60) 'm' (seconds % 60) 's'
  else twoUnits (seconds / 3600) 'h' (seconds / 60 % 60) 'm'

end Wording
