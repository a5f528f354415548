import Wording.Text.Basic
import Wording.Text.Blank
import Wording.Text.Digit

/-!
Integers as people write them: white space around, a sign, and digits of any script with single low lines between them.
The separators of files, groups, records and units are no white space here. Integers of too many digits are neither read
nor written.
-/

set_option autoImplicit false

namespace Wording

/-- Why something cannot be written: an integer in it has too many digits, or its values stand too deeply inside each
other. -/
inductive Unwritable where
  | tooManyDigits
  | tooDeep
deriving DecidableEq, Repr

def Unwritable.message : Unwritable → Text
  | .tooManyDigits =>
    "Exceeds the limit (4300 digits) for integer string conversion; ".toList ++
      "use sys.set_int_max_str_digits() to increase the limit".toList
  | .tooDeep => "maximum recursion depth exceeded while getting the repr of an object".toList

namespace Text

/-- The most digits that an integer is read from and written with. -/
def maxIntegerDigits : Nat := 4300

/-- Whether an integer has few enough digits to be written. -/
def isWritable (n : Int) : Bool := n.natAbs < Nat.pow 10 maxIntegerDigits

/-- The text of an integer, if it has few enough digits. -/
def writeInt (n : Int) : Except Unwritable Text :=
  if isWritable n then .ok (ofInt n) else .error .tooManyDigits

/-- The values of a run of digits with single low lines between them. -/
def digitValues? : Text → Option (List Nat)
  | [] => none
  | [c] => (digitValue? c).map ([·])
  | c :: '_' :: rest => do pure ((← digitValue? c) :: (← digitValues? rest))
  | c :: rest => do pure ((← digitValue? c) :: (← digitValues? rest))

/-- The number that some digits write, the first digit weighing most. -/
def ofDigitValues (base : Nat) (digits : List Nat) : Nat :=
  digits.foldl (fun n d => n * base + d) 0

/-- The number without a sign that a text writes. -/
def readNatural? (t : Text) : Option Nat := do
  let digits ← digitValues? t
  if digits.length ≤ maxIntegerDigits then pure (ofDigitValues 10 digits) else none

/-- Whether a character may stand around an integer. -/
def surroundsInteger (c : Char) : Bool := isBlank c && !(0x1C ≤ c.toNat && c.toNat < 0x20)

/-- Removes what may stand around an integer. -/
def trimInteger (t : Text) : Text :=
  ((t.dropWhile surroundsInteger).reverse.dropWhile surroundsInteger).reverse

def readInteger? (t : Text) : Option Int :=
  match trimInteger t with
  | '-' :: digits => (readNatural? digits).map fun n => -(n : Int)
  | '+' :: digits => (readNatural? digits).map fun n => (n : Int)
  | digits => (readNatural? digits).map fun n => (n : Int)

end Text

end Wording
