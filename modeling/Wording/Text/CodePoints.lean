import Wording.Text.Quoted

/-!
Texts by their code points. An escape can name a code point that is half of a pair and no character by itself:
a high half and the low half behind it stand for one character, and any other half for none.
-/

set_option autoImplicit false

namespace Wording.Text

def codePoints (t : Text) : List Nat := t.map Char.toNat

/-- Whether a code point is the first half of a pair. -/
def isHighHalf (n : Nat) : Bool := 0xD800 ≤ n && n ≤ 0xDBFF

/-- Whether a code point is the second half of a pair. -/
def isLowHalf (n : Nat) : Bool := 0xDC00 ≤ n && n ≤ 0xDFFF

def isHalf (n : Nat) : Bool := isHighHalf n || isLowHalf n

/-- The character of a code point; a half leaves the sign for what cannot be read. -/
def readable (n : Nat) : Char := if isHalf n then '\uFFFD' else Char.ofNat n

/-- The text of code points in which pairs make characters. -/
def ofCodePoints : List Nat → Text
  | [] => []
  | [n] => [readable n]
  | n :: low :: rest =>
    if isHighHalf n && isLowHalf low then
      Char.ofNat (0x10000 + (n - 0xD800) * 0x400 + (low - 0xDC00)) :: ofCodePoints rest
    else readable n :: ofCodePoints (low :: rest)

/-- Code points between quotes, where halves stay halves and are escaped. -/
def shownCodePoints (codes : List Nat) : Text :=
  let quote := shownQuote (ofCodePoints codes)
  let piece (n : Nat) : Text :=
    if isHalf n then ['\\', 'u'] ++ hexPadded 4 n else shownChar quote (Char.ofNat n)
  quote :: codes.flatMap piece ++ [quote]

end Wording.Text
