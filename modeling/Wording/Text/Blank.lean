import Wording.Text.Spans

/-!
White space in the wide sense: the characters that trimming removes and that word splitting splits at.
The zero width space and the byte order mark are not among them.
-/

set_option autoImplicit false

namespace Wording.Text

def blankSpans : Spans :=
  [(0x9, 0xD), (0x1C, 0x20), (0x85, 0x85), (0xA0, 0xA0), (0x1680, 0x1680), (0x2000, 0x200A),
   (0x2028, 0x2029), (0x202F, 0x202F), (0x205F, 0x205F), (0x3000, 0x3000)]

def isBlank (c : Char) : Bool := blankSpans.has c.toNat

def trimLeft (t : List Char) : List Char := t.dropWhile isBlank

def trimRight (t : List Char) : List Char := (t.reverse.dropWhile isBlank).reverse

def trim (t : List Char) : List Char := trimRight (trimLeft t)

/-- Whether a text holds nothing but white space. -/
def isAllBlank (t : List Char) : Bool := t.all isBlank

end Wording.Text
