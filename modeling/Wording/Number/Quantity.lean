import Wording.Number.Decimal

/-!
Quantities are whole numbers or binary ones and keep which of the two they are, since each has its own
text. They are compared by their exact values. A whole number that lies beyond the greatest binary one has
no text with a fixed number of places and cannot be divided.
-/

set_option autoImplicit false

namespace Wording.Number

/-- A number lies beyond the greatest binary number. -/
inductive RangeError where
  | tooLarge
deriving DecidableEq, Repr

def RangeError.message : RangeError → Text
  | .tooLarge => "number too large".toList

/-- A rounded number, unless rounding left the binary numbers. -/
def Binary.bounded : Binary → Except RangeError Binary
  | .infinite _ => .error .tooLarge
  | x => .ok x

/-- A whole number or a binary one. -/
inductive Quantity where
  | whole (n : Int)
  | binary (x : Binary)
deriving DecidableEq, Repr

namespace Quantity

/-- The text of a quantity: a whole number without a point, a binary one with its fewest digits. -/
def text : Quantity → Text
  | .whole n => Text.ofInt n
  | .binary x => x.shortest

/-- The binary number nearest to a quantity, unless a whole number lies beyond all binary ones. -/
def toBinary : Quantity → Except RangeError Binary
  | .whole n => (Binary.ofInt n).bounded
  | .binary x => .ok x

def fixed (places : Nat) (q : Quantity) : Except RangeError Text :=
  q.toBinary.map fun x => x.fixed places

/-- The exact value over a positive denominator, if the quantity is finite. -/
def finite? : Quantity → Option (Int × Nat)
  | .whole n => some (n, 1)
  | .binary (.finite s m e) => some (Binary.signedFraction s m e)
  | .binary _ => none

/-- Whether one quantity is less than another, by exact values. Nothing compares with an undefined one. -/
def lt (a b : Quantity) : Bool :=
  match a.finite?, b.finite? with
  | some (n, d), some (n', d') => n * d' < n' * d
  | _, _ =>
    match a, b with
    | .binary .undefined, _ => false
    | _, .binary .undefined => false
    | .binary (.infinite s), .binary (.infinite s') => s && !s'
    | .binary (.infinite s), _ => s
    | _, .binary (.infinite s) => !s
    | _, _ => false

/-- The nearest binary number to a quantity divided by a positive whole number. -/
def dividedBy (a : Quantity) (divisor : Nat) : Except RangeError Binary :=
  match a with
  | .whole n => (Binary.ofFraction (n < 0) n.natAbs divisor).bounded
  | .binary (.finite negative significand exponent) =>
    let (n, d) := Binary.fraction significand exponent
    .ok (Binary.ofFraction negative n (d * divisor))
  | .binary x => .ok x

end Quantity

/-- The share of a part in a positive total in percent, and zero for no total: the quotient is rounded,
then its hundredfold. -/
def percentage (part total : Nat) : Quantity :=
  .binary
    (if total = 0 then Binary.zero false
     else (Binary.ofFraction false part total).mul (Binary.ofInt 100))

end Wording.Number
