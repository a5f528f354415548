import Wording.Text.CodePoints
import Wording.Text.Integer

/-!
The tokens of a JSON document. The reader takes one character after the other, and skips blanks, tabulators and ends of
lines between tokens. A string is read as code points, in which an escaped pair of code units makes one character. The
words for truth values and for nothing are refused, since no report holds such values.
-/

set_option autoImplicit false

namespace Wording.Export.Json

/-- A token of a document. A number keeps its text. -/
inductive Token where
  | openArray
  | closeArray
  | openObject
  | closeObject
  | comma
  | colon
  | string (text : Text)
  | number (text : Text)
deriving DecidableEq, Repr

/-! ## Numbers -/

def isDigits (t : Text) : Bool := t ≠ [] && t.all Char.isDigit

/-- A text without the minus or plus sign that it begins with. -/
def dropSign : Text → Text
  | '-' :: rest => rest
  | '+' :: rest => rest
  | t => t

/-- Whether a text is the exponent of a number: nothing, or digits behind a letter and perhaps a sign. -/
def isExponent : Text → Bool
  | [] => true
  | c :: rest => (c = 'e' || c = 'E') && isDigits (dropSign rest)

/-- Whether a text is what follows the whole part of a number: perhaps a point and digits, and an exponent. -/
def isFraction : Text → Bool
  | '.' :: rest => rest.takeWhile Char.isDigit ≠ [] && isExponent (rest.dropWhile Char.isDigit)
  | t => isExponent t

/-- Whether a text is the whole part of a number: digits, of which the first is no zero if there are several. -/
def isWholePart (t : Text) : Bool := isDigits t && (t.length = 1 || t.head? ≠ some '0')

def isUnsigned (t : Text) : Bool :=
  isWholePart (t.takeWhile Char.isDigit) && isFraction (t.dropWhile Char.isDigit)

/-- Whether a text is a number, perhaps behind a minus sign. -/
def isNumber : Text → Bool
  | '-' :: rest => isUnsigned rest
  | t => isUnsigned t

def isNumberChar (c : Char) : Bool := c.isDigit || ['-', '+', '.', 'e', 'E'].contains c

/-! ## Tokens -/

/-- The code point that a letter behind a backslash stands for. -/
def escaped? : Char → Option Nat
  | '"' => some 0x22
  | '\\' => some 0x5C
  | '/' => some 0x2F
  | 'b' => some 0x08
  | 'f' => some 0x0C
  | 'n' => some 0x0A
  | 'r' => some 0x0D
  | 't' => some 0x09
  | _ => none

/-- Where the reader stands: between tokens, in a string with its code points so far, behind a backslash in it, in the
hexadecimal digits of a code unit in it, or in a number with its text so far. -/
inductive TokenPlace where
  | between
  | inString (codes : List Nat)
  | behindBackslash (codes : List Nat)
  | inCodeUnit (codes digits : List Nat)
  | inNumber (text : Text)
deriving DecidableEq, Repr

/-- What the reader has behind it. -/
structure TokenReading where
  place : TokenPlace := .between
  tokens : List Token := []
deriving DecidableEq, Repr

namespace TokenReading

/-- The reader behind some tokens and one more character. -/
def stepBetween (tokens : List Token) (c : Char) : Option TokenReading :=
  match c with
  | ' ' | '\t' | '\n' | '\r' => some ⟨.between, tokens⟩
  | '[' => some ⟨.between, tokens ++ [.openArray]⟩
  | ']' => some ⟨.between, tokens ++ [.closeArray]⟩
  | '\x7b' => some ⟨.between, tokens ++ [.openObject]⟩
  | '\x7d' => some ⟨.between, tokens ++ [.closeObject]⟩
  | ',' => some ⟨.between, tokens ++ [.comma]⟩
  | ':' => some ⟨.between, tokens ++ [.colon]⟩
  | '"' => some ⟨.inString [], tokens⟩
  | _ => if c = '-' || c.isDigit then some ⟨.inNumber [c], tokens⟩ else none

def step (r : TokenReading) (c : Char) : Option TokenReading :=
  match r.place with
  | .between => stepBetween r.tokens c
  | .inString codes =>
    if c = '"' then some ⟨.between, r.tokens ++ [.string (Text.ofCodePoints codes)]⟩
    else if c = '\\' then some { r with place := .behindBackslash codes }
    else if c.toNat < 0x20 then none
    else some { r with place := .inString (codes ++ [c.toNat]) }
  | .behindBackslash codes =>
    if c = 'u' then some { r with place := .inCodeUnit codes [] }
    else (escaped? c).map fun code => { r with place := .inString (codes ++ [code]) }
  | .inCodeUnit codes digits =>
    (Text.hexValue? c).map fun digit =>
      if digits.length < 3 then { r with place := .inCodeUnit codes (digits ++ [digit]) }
      else { r with place := .inString (codes ++ [Text.ofDigitValues 16 (digits ++ [digit])]) }
  | .inNumber t =>
    if isNumberChar c then some { r with place := .inNumber (t ++ [c]) }
    else if isNumber t then stepBetween (r.tokens ++ [.number t]) c
    else none

def finish? (r : TokenReading) : Option (List Token) :=
  match r.place with
  | .between => some r.tokens
  | .inNumber t => if isNumber t then some (r.tokens ++ [.number t]) else none
  | _ => none

end TokenReading

/-- The tokens of a text, unless something in it is no token. -/
def tokens? (t : Text) : Option (List Token) := do
  (← t.foldlM TokenReading.step {}).finish?

end Wording.Export.Json
