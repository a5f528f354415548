import Wording.Text.Basic
import Wording.Number.Binary

/-!
Decimal texts of binary numbers: the fewest digits that read back as the number, and a fixed number of
places. The fewest digits are found by trying one to seventeen digits: on the grid of each length the two
neighbours of the number are compared with the interval of values that round to it.
-/

set_option autoImplicit false

namespace Wording.Number

def fractionLt (a b : Nat × Nat) : Bool := a.1 * b.2 < b.1 * a.2

/-- An integer times a power of ten, as a fraction. -/
def scaledByTen (n : Nat) (power : Int) : Nat × Nat :=
  match power with
  | .ofNat k => (n * Nat.pow 10 k, 1)
  | .negSucc k => (n, Nat.pow 10 (k + 1))

/-- The power of ten that is just above a positive fraction. -/
def decimalMagnitude (value : Nat × Nat) : Int :=
  if value.2 ≤ value.1 then (Nat.toDigits 10 (value.1 / value.2)).length
  else
    let reciprocal := (value.2 + value.1 - 1) / value.1
    1 - ((Nat.toDigits 10 (reciprocal - 1)).length : Int)

/-- The interval of values that round to a number, and whether its ends belong to it. -/
structure Interval where
  low : Nat × Nat
  high : Nat × Nat
  closed : Bool

/-- The interval of the values nearest to a finite number. Below a power of two the numbers lie twice as
close. -/
def roundingInterval (significand : Nat) (exponent : Int) : Interval :=
  let below := if significand = Nat.pow 2 52 ∧ Binary.leastExponent < exponent then 1 else 2
  ⟨Binary.fraction (4 * significand - below) (exponent - 2),
   Binary.fraction (4 * significand + 2) (exponent - 2), significand % 2 = 0⟩

def Interval.holds (i : Interval) (value : Nat × Nat) : Bool :=
  if i.closed then !fractionLt value i.low && !fractionLt i.high value
  else fractionLt i.low value && fractionLt value i.high

/-- The grid point of a power of ten that lies in the interval and is nearest to the value, if there is
one; a tie goes to the even point. -/
def nearestOnGrid? (value : Nat × Nat) (interval : Interval) (power : Int) : Option Nat :=
  let (n, d) :=
    match power with
    | .ofNat k => (value.1, value.2 * Nat.pow 10 k)
    | .negSucc k => (value.1 * Nat.pow 10 (k + 1), value.2)
  let point := n / d
  let lower := interval.holds (scaledByTen point power)
  let upper := interval.holds (scaledByTen (point + 1) power)
  let nearest := roundedQuotient n d
  if lower && upper then some nearest
  else if lower then some point
  else if upper then some (point + 1)
  else none

/-- Takes zeros off the end of a list of digits. -/
def withoutFinalZeros (digits : Text) : Text := (digits.reverse.dropWhile (· = '0')).reverse

/-- The fewest digits that read back as a positive finite number, and the power of ten above the first
digit. -/
def shortestDigits (significand : Nat) (exponent : Int) : Text × Int :=
  let value := Binary.fraction significand exponent
  let magnitude := decimalMagnitude value
  let interval := roundingInterval significand exponent
  match (List.range 17).findSome? fun (i : Nat) =>
      let power := magnitude - ((i : Nat) + 1 : Int)
      (nearestOnGrid? value interval power).map fun point => (point, power) with
  | some (point, power) =>
    let digits := Nat.toDigits 10 point
    (withoutFinalZeros digits, power + digits.length)
  | none => (['0'], 1)

/-- How the digits of a number are laid out. -/
structure Layout where
  /-- The least power of ten above the first digit that is written without an exponent. -/
  leastPower : Int
  /-- The greatest one. -/
  greatestPower : Int
  /-- The least length of an exponent. -/
  exponentDigits : Nat

/-- Digits around a point from one ten-thousandth up to sixteen digits before the point, else one digit
before the point and an exponent of two digits at least. -/
def plainLayout : Layout := ⟨-3, 16, 2⟩

/-- Digits whose point stands behind the power of ten `magnitude`; a whole number keeps one zero behind
the point. -/
def positional (digits : Text) (magnitude : Int) : Text :=
  if magnitude ≤ 0 then "0.".toList ++ List.replicate (-magnitude).toNat '0' ++ digits
  else
    let whole := magnitude.toNat
    if digits.length ≤ whole then
      digits ++ List.replicate (whole - digits.length) '0' ++ ".0".toList
    else digits.take whole ++ '.' :: digits.drop whole

def scientific (layout : Layout) (digits : Text) (magnitude : Int) : Text :=
  let power := magnitude - 1
  let exponent := Nat.toDigits 10 power.natAbs
  digits.take 1 ++ (if digits.length ≤ 1 then [] else '.' :: digits.drop 1)
    ++ ['e', if power < 0 then '-' else '+']
    ++ List.replicate (layout.exponentDigits - exponent.length) '0' ++ exponent

def signText (negative : Bool) : Text := if negative then ['-'] else []

/-- The fewest digits that read back as the number. -/
def Binary.shortest : Binary → Text
  | .finite negative significand exponent =>
    signText negative ++
      if significand = 0 then "0.0".toList
      else
        let (digits, magnitude) := shortestDigits significand exponent
        if plainLayout.leastPower ≤ magnitude ∧ magnitude ≤ plainLayout.greatestPower then
          positional digits magnitude
        else scientific plainLayout digits magnitude
  | .infinite negative => signText negative ++ "inf".toList
  | .undefined => "nan".toList

/-- Digits with a point before the last `places` of them. -/
def withPoint (places n : Nat) : Text :=
  let digits := Nat.toDigits 10 n
  let padded := List.replicate (places + 1 - digits.length) '0' ++ digits
  padded.take (padded.length - places) ++ '.' :: padded.drop (padded.length - places)

/-- The number with a fixed number of places, a half going to the even digit. -/
def Binary.fixed (places : Nat) : Binary → Text
  | .finite negative significand exponent =>
    let (n, d) := Binary.fraction significand exponent
    signText negative ++ withPoint places (roundedQuotient (n * Nat.pow 10 places) d)
  | .infinite negative => signText negative ++ "inf".toList
  | .undefined => "nan".toList

end Wording.Number
