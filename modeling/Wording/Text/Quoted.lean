import Wording.Text.Basic
import Wording.Text.Printable

/-!
Texts as they are shown inside messages: between single quotes, or between double quotes if the text holds
a single quote and no double one. Escapes keep the shown form on one line and printable.
-/

set_option autoImplicit false

namespace Wording.Text

/-- A number in lower-case hexadecimal digits, padded with zeros to a least length. -/
def hexPadded (length n : Nat) : Text :=
  let digits := Nat.toDigits 16 n
  List.replicate (length - digits.length) '0' ++ digits

def shownChar (quote c : Char) : Text :=
  if c = quote || c = '\\' then ['\\', c]
  else if c = '\t' then ['\\', 't']
  else if c = '\n' then ['\\', 'n']
  else if c = '\r' then ['\\', 'r']
  else if isPrintable c then [c]
  else if c.toNat < 0x100 then ['\\', 'x'] ++ hexPadded 2 c.toNat
  else if c.toNat < 0x10000 then ['\\', 'u'] ++ hexPadded 4 c.toNat
  else ['\\', 'U'] ++ hexPadded 8 c.toNat

/-- The quote that a text is shown between. -/
def shownQuote (t : Text) : Char := if List.contains t '\'' && !List.contains t '"' then '"' else '\''

/-- A text between quotes. -/
def shown (t : Text) : Text :=
  let quote := shownQuote t
  quote :: t.flatMap (shownChar quote) ++ [quote]

/-- One byte between quotes of a kind: only those of printable ASCII characters stand for themselves. -/
def shownByte (quote : Char) (b : UInt8) : Text :=
  if b.toNat < 0x7F then shownChar quote (Char.ofNat b.toNat) else ['\\', 'x'] ++ hexPadded 2 b.toNat

def shownBytes (bytes : List UInt8) : Text :=
  let quote := shownQuote (bytes.map fun b => Char.ofNat b.toNat)
  'b' :: quote :: bytes.flatMap (shownByte quote) ++ [quote]

end Wording.Text
