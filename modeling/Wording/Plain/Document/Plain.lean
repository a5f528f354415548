import Wording.Plain.Document.Error
import Wording.Plain.Document.Value
import Wording.Text.Integer

/-!
What plain scalars mean: nothing, truth values, whole numbers in four bases and in sixties, numbers with a
point, else texts. Low lines between digits are dropped.
-/

set_option autoImplicit false

namespace Wording.Plain.Document

/-- What a scalar means. Two signs have a meaning of their own as keys. -/
inductive Meaning where
  | value (v : Value)
  | mergeSign
  | valueSign

/-- Whether a character is a decimal digit of ASCII. -/
def isDigitChar (c : Char) : Bool := '0' ≤ c && c ≤ '9'

/-- Whether a character is a decimal digit or a low line. -/
def isDigitOrLine (c : Char) : Bool := isDigitChar c || c = '_'

/-- The value of a digit in a base up to sixteen. -/
def digitIn? (base : Nat) (c : Char) : Option Nat :=
  let n :=
    if isDigitChar c then c.toNat - '0'.toNat
    else if 'a' ≤ c && c ≤ 'f' then c.toNat - 'a'.toNat + 10
    else if 'A' ≤ c && c ≤ 'F' then c.toNat - 'A'.toNat + 10
    else base
  if n < base then some n else none

/-- The number that digits in a base write, low lines aside. -/
def naturalIn (base : Nat) (t : Text) : Nat :=
  (t.filterMap (digitIn? base)).foldl (fun n d => n * base + d) 0

/-- Whether a text is not empty and holds digits of a base and low lines alone. -/
def isIn (base : Nat) (t : Text) : Bool :=
  t ≠ [] && t.all fun c => c = '_' || (digitIn? base c).isSome

/-- A sign at the beginning of a text: whether it is a minus, and the rest. -/
def splitSign : Text → Bool × Text
  | '-' :: t => (true, t)
  | '+' :: t => (false, t)
  | t => (false, t)

/-- Whether a text is a sixtieth: one digit, or two of which the first is at most five. -/
def isSixtieth : Text → Bool
  | [c] => isDigitChar c
  | [c, d] => '0' ≤ c && c ≤ '5' && isDigitChar d
  | _ => false

/-- The number that parts write of which each weighs sixty times the next. -/
def sixties (parts : List Nat) : Nat := parts.foldl (fun n p => n * 60 + p) 0

/-- A number in a base, which needs a digit beside its low lines. -/
def basedNumber (negative : Bool) (base : Nat) (t : Text) : Except DocumentError Value :=
  if t.all (· = '_') then .error (.noDigits base)
  else
    let n : Int := naturalIn base t
    .ok (.int (if negative then -n else n))

/-- The number that decimal digits write, low lines aside; there is a limit to their count. -/
def decimalNatural (t : Text) : Except DocumentError Nat :=
  let count := (t.filter isDigitChar).length
  if Text.maxIntegerDigits < count then .error (.tooManyDigits count) else .ok (naturalIn 10 t)

/-- The whole number that a plain scalar writes, if it writes one. -/
def wholeNumber? (t : Text) : Option (Except DocumentError Value) :=
  let (negative, t) := splitSign t
  let signed (n : Nat) : Except DocumentError Value :=
    .ok (.int (if negative then -(n : Int) else n))
  match t with
  | ['0'] => some (signed 0)
  | '0' :: 'b' :: digits => if isIn 2 digits then some (basedNumber negative 2 digits) else none
  | '0' :: 'x' :: digits => if isIn 16 digits then some (basedNumber negative 16 digits) else none
  | '0' :: digits => if isIn 8 digits then some (signed (naturalIn 8 digits)) else none
  | c :: _ =>
    if isDigitChar c then
      match Text.splitOnChar ':' t with
      | [digits] => if digits.all isDigitOrLine then some (decimalNatural digits >>= signed) else none
      | first :: rest =>
        if first.all isDigitOrLine && rest.all isSixtieth then
          some do signed (sixties ((← decimalNatural first) :: rest.map (naturalIn 10)))
        else none
      | [] => none
    else none
  | [] => none

/-- An exponent with its sign, or none at all; nothing if the text is neither. -/
def exponent? : Text → Option Int
  | [] => some 0
  | e :: sign :: digits =>
    if (e = 'e' || e = 'E') && (sign = '+' || sign = '-') && digits ≠ [] && digits.all isDigitChar then
      let n : Int := naturalIn 10 digits
      some (if sign = '-' then -n else n)
    else none
  | _ => none

/-- The number of digits and low lines before and behind a point, and an exponent. -/
def decimalNumber (negative : Bool) (whole fraction : Text) (exponent : Int) : Number.Binary :=
  let places := (fraction.filter isDigitChar).length
  Number.Binary.ofDecimal negative (naturalIn 10 (whole ++ fraction)) (exponent - places)

/-- The sum of parts, the last weighing one and each sixty times the next; every step is rounded, and no
weight may lie beyond the binary numbers. -/
def sixtiesSum (parts : List Number.Binary) : Except Number.RangeError Number.Binary := do
  let step (before : Number.Binary × Int) (part : Number.Binary) :
      Except Number.RangeError (Number.Binary × Int) := do
    let weight ← (Number.Quantity.whole before.2).toBinary
    pure (before.1.add (part.mul weight), before.2 * 60)
  pure (← parts.reverse.foldlM step (Number.Binary.zero false, 1)).1

/-- The number with a point that a plain scalar writes, if it writes one. -/
def pointNumber? (t : Text) : Option (Except Number.RangeError Number.Binary) :=
  let hasSign := t.head? = some '-' || t.head? = some '+'
  let (negative, t) := splitSign t
  let whole := t.takeWhile (· ≠ '.')
  match t.drop whole.length with
  | [] => none
  | _ :: behind =>
    if [".inf", ".Inf", ".INF"].any (fun w => t = w.toList) then some (.ok (.infinite negative))
    else if !hasSign && [".nan", ".NaN", ".NAN"].any (fun w => t = w.toList) then some (.ok .undefined)
    else
      let fraction := behind.takeWhile isDigitOrLine
      let ending := behind.drop fraction.length
      match whole with
      | [] =>
        if !hasSign && (fraction.head?.any isDigitChar) then
          (exponent? ending).map fun e => .ok (decimalNumber negative [] fraction e)
        else none
      | c :: _ =>
        if !isDigitChar c then none
        else
          match Text.splitOnChar ':' whole with
          | [digits] =>
            if digits.all isDigitOrLine then
              (exponent? ending).map fun e => .ok (decimalNumber negative digits fraction e)
            else none
          | first :: rest =>
            if first.all isDigitOrLine && rest.all isSixtieth && ending = [] then
              let parts :=
                (first :: rest.dropLast).map fun p => Number.Binary.ofInt (naturalIn 10 p)
              let last := decimalNumber false (rest.getLast?.getD []) fraction 0
              some ((sixtiesSum (parts ++ [last])).map fun sum => if negative then sum.neg else sum)
            else none
          | [] => none

/-- Whether a text is a word in small letters, with a capital, or in capitals. -/
def isWord (t : Text) (small capital capitals : String) : Bool :=
  t = small.toList || t = capital.toList || t = capitals.toList

/-- The truth value that a word stands for. -/
def truthValue? (t : Text) : Option Bool :=
  if isWord t "yes" "Yes" "YES" || isWord t "true" "True" "TRUE" || isWord t "on" "On" "ON" then
    some true
  else if isWord t "no" "No" "NO" || isWord t "false" "False" "FALSE"
      || isWord t "off" "Off" "OFF" then
    some false
  else none

/-- What a plain scalar means. -/
def meaningOfPlain (t : Text) : Except DocumentError Meaning :=
  if t = [] || t = ['~'] || isWord t "null" "Null" "NULL" then .ok (.value .null)
  else if t = ['<', '<'] then .ok .mergeSign
  else if t = ['='] then .ok .valueSign
  else
    match truthValue? t, wholeNumber? t, pointNumber? t with
    | some b, _, _ => .ok (.value (.bool b))
    | none, some n, _ => n.map .value
    | none, none, some x => (x.mapError .number).map fun x => .value (.float x)
    | none, none, none => .ok (.value (.text t))

end Wording.Plain.Document
