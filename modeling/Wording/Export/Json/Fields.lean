import Wording.Export.Json
import Wording.Export.Json.Token
import Wording.Settings.Basic

/-!
The fields of documents. What stands under a key is read as the text, the list or the number that it is; a number
without a point and without an exponent is a whole one, every other number the nearest binary one. Objects that stand
for terms and findings are read as these.
-/

set_option autoImplicit false

namespace Wording.Export.Json

/-! ## Numbers -/

def natural (digits : Text) : Nat := Nat.ofDigitChars 10 digits 0

/-- The exponent that the ending of a number writes. -/
def exponentOfText : Text → Int
  | [] => 0
  | _ :: '-' :: digits => -(natural digits : Int)
  | _ :: rest => natural (dropSign rest)

/-- The binary number nearest to what a text without a sign writes. -/
def binaryOfUnsigned (negative : Bool) (t : Text) : Number.Binary :=
  let whole := t.takeWhile Char.isDigit
  match t.dropWhile Char.isDigit with
  | '.' :: rest =>
    let fraction := rest.takeWhile Char.isDigit
    .ofDecimal negative (natural (whole ++ fraction))
      (exponentOfText (rest.dropWhile Char.isDigit) - fraction.length)
  | ending => .ofDecimal negative (natural whole) (exponentOfText ending)

/-- The number that a text without a sign writes. -/
def quantityOfUnsigned (negative : Bool) (t : Text) : Number.Quantity :=
  if isDigits t then .whole (if negative then -(natural t : Int) else natural t)
  else .binary (binaryOfUnsigned negative t)

def quantityOfText : Text → Number.Quantity
  | '-' :: t => quantityOfUnsigned true t
  | t => quantityOfUnsigned false t

/-! ## Fields -/

/-- The value under a key of an object, the last one if the key stands there more than once. -/
def field? (v : Json) (key : String) : Option Json :=
  match v with
  | .object fields => (fields.findRev? fun field => field.1 = key.toList).map Prod.snd
  | _ => none

def asText? : Json → Option Text
  | .string t => some t
  | _ => none

def asItems? : Json → Option (List Json)
  | .array items => some items
  | _ => none

def asQuantity? : Json → Option Number.Quantity
  | .number t => some (quantityOfText t)
  | _ => none

def asWhole? (v : Json) : Option Int :=
  match asQuantity? v with
  | some (.whole n) => some n
  | _ => none

def textUnder? (v : Json) (key : String) : Option Text := field? v key >>= asText?

def itemsUnder? (v : Json) (key : String) : Option (List Json) := field? v key >>= asItems?

def quantityUnder? (v : Json) (key : String) : Option Number.Quantity := field? v key >>= asQuantity?

def wholeUnder? (v : Json) (key : String) : Option Int := field? v key >>= asWhole?

/-! ## Terms and findings -/

def term? (v : Json) : Option Term := do
  let category ← Category.ofText? (← textUnder? v "category")
  let severity ← Severity.ofText? (← textUnder? v "severity")
  let suggestions ← (← itemsUnder? v "suggestions").mapM asText?
  (Term.make (← textUnder? v "id") (← textUnder? v "term") category severity suggestions).toOption

def finding? (v : Json) : Option Finding := do
  let kind ← (TokenKind.ofText (← textUnder? v "type")).toOption
  let term ← term? (← field? v "biasedTerm")
  pure ⟨kind, ← wholeUnder? v "line", ← wholeUnder? v "column", ← textUnder? v "content",
    ← textUnder? v "context", term⟩

end Wording.Export.Json
