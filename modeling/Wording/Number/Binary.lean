/-!
Binary floating-point numbers of 53 bits, as exact values: a sign, a significand and a power of two. Every
operation is carried out on fractions and rounded once to the nearest number, a half to the even
significand.
-/

set_option autoImplicit false

namespace Wording.Number

/-- The quotient of two numbers, rounded to the nearest integer and a half to the even one. -/
def roundedQuotient (num den : Nat) : Nat :=
  let quotient := num / den
  let twice := 2 * (num % den)
  if twice < den then quotient
  else if den < twice then quotient + 1
  else if quotient % 2 = 0 then quotient else quotient + 1

/-- A binary number: plus or minus a significand times a power of two, or one of the values beyond. -/
inductive Binary where
  | finite (negative : Bool) (significand : Nat) (exponent : Int)
  | infinite (negative : Bool)
  | undefined
deriving DecidableEq, Repr

namespace Binary

def leastExponent : Int := -1074

def greatestExponent : Int := 971

def zero (negative : Bool) : Binary := .finite negative 0 leastExponent

/-- A fraction divided by a power of two, as a fraction. -/
def dividedByPower (num den : Nat) (exponent : Int) : Nat × Nat :=
  match exponent with
  | .ofNat k => (num, den * Nat.pow 2 k)
  | .negSucc k => (num * Nat.pow 2 (k + 1), den)

/-- The exponent that leaves a positive fraction a quotient of 53 bits, or the least exponent. -/
def exponentOf (num den : Nat) : Int :=
  let guess : Int := (Nat.log2 num : Int) - (Nat.log2 den : Int) - 53
  let (n, d) := dividedByPower num den guess
  max leastExponent (if n / d < Nat.pow 2 53 then guess else guess + 1)

/-- The number nearest to a fraction. -/
def ofFraction (negative : Bool) (num den : Nat) : Binary :=
  if num = 0 then zero negative
  else
    let exponent := exponentOf num den
    let (n, d) := dividedByPower num den exponent
    let significand := roundedQuotient n d
    let (significand, exponent) :=
      if significand = Nat.pow 2 53 then (Nat.pow 2 52, exponent + 1) else (significand, exponent)
    if greatestExponent < exponent then .infinite negative
    else .finite negative significand exponent

def ofInt (n : Int) : Binary := ofFraction (n < 0) n.natAbs 1

/-- The absolute value of a finite number as a fraction. -/
def fraction (significand : Nat) (exponent : Int) : Nat × Nat :=
  match exponent with
  | .ofNat k => (significand * Nat.pow 2 k, 1)
  | .negSucc k => (significand, Nat.pow 2 (k + 1))

/-- The product of two numbers. -/
def mul : Binary → Binary → Binary
  | .finite s m e, .finite s' m' e' =>
    let (n, d) := fraction m e
    let (n', d') := fraction m' e'
    ofFraction (s != s') (n * n') (d * d')
  | .infinite s, .finite s' m _ => if m = 0 then .undefined else .infinite (s != s')
  | .finite s m _, .infinite s' => if m = 0 then .undefined else .infinite (s != s')
  | .infinite s, .infinite s' => .infinite (s != s')
  | _, _ => .undefined

def neg : Binary → Binary
  | .finite s m e => .finite (!s) m e
  | .infinite s => .infinite (!s)
  | .undefined => .undefined

/-- The value of a finite number as an integer over a positive denominator. -/
def signedFraction (negative : Bool) (significand : Nat) (exponent : Int) : Int × Nat :=
  let (n, d) := fraction significand exponent
  (if negative then -(n : Int) else n, d)

/-- The sum of two numbers. A sum of zero is negative only if both parts are. -/
def add : Binary → Binary → Binary
  | .finite s m e, .finite s' m' e' =>
    let (n, d) := signedFraction s m e
    let (n', d') := signedFraction s' m' e'
    let sum := n * d' + n' * d
    if sum = 0 then zero (s && s') else ofFraction (sum < 0) sum.natAbs (d * d')
  | .infinite s, .infinite s' => if s = s' then .infinite s else .undefined
  | .infinite s, .finite _ _ _ => .infinite s
  | .finite _ _ _, .infinite s => .infinite s
  | _, _ => .undefined

/-- The number nearest to a decimal fraction, the digits taken as an integer times a power of ten. Powers
far beyond all numbers are not raised. -/
def ofDecimal (negative : Bool) (digits : Nat) (exponent : Int) : Binary :=
  if digits = 0 then zero negative
  else if 400 < exponent then .infinite negative
  else if exponent < -400 - (Nat.log2 digits : Int) then zero negative
  else
    match exponent with
    | .ofNat k => ofFraction negative (digits * Nat.pow 10 k) 1
    | .negSucc k => ofFraction negative digits (Nat.pow 10 (k + 1))

end Binary

end Wording.Number
