import Wording.Plain.Document.Error

/-!
A place in the text of a document: what is left, and the index, line and column of the next character.
Five characters end lines; three of them count as a line feed, and the two separators stay themselves.
-/

set_option autoImplicit false

namespace Wording.Plain.Document

def isBreak (c : Char) : Bool :=
  c = '\r' || c = '\n' || c = '\u0085' || c = '\u2028' || c = '\u2029'

/-- Whether the text ends here, or a line ends, or a space or tab stands here. -/
def isGap : Option Char → Bool
  | none => true
  | some c => c = ' ' || c = '\t' || isBreak c

def isLineEnd : Option Char → Bool
  | none => true
  | some c => isBreak c

/-- Whether a character may stand in a document at all. -/
def isAllowed (c : Char) : Bool :=
  let n := c.toNat
  n = 0x9 || n = 0xA || n = 0xD || (0x20 ≤ n && n ≤ 0x7E) || n = 0x85
    || (0xA0 ≤ n && n ≤ 0xD7FF) || (0xE000 ≤ n && n ≤ 0xFFFD) || 0x10000 ≤ n

/-- A place in the text of a document. -/
structure Cursor where
  rest : Text
  index : Nat
  line : Nat
  column : Nat
deriving DecidableEq, Repr

namespace Cursor

def start (t : Text) : Cursor := ⟨t, 0, 0, 0⟩

def next? (c : Cursor) : Option Char := c.rest.head?

def at? (c : Cursor) (distance : Nat) : Option Char := c.rest[distance]?

def isAt (c : Cursor) (ch : Char) : Bool := c.next? = some ch

/-- The place behind the next character. A byte order mark takes no column. -/
def step (c : Cursor) : Cursor :=
  match c.rest with
  | [] => c
  | ch :: rest =>
    if isBreak ch && !(ch = '\r' && rest.head? = some '\n') then ⟨rest, c.index + 1, c.line + 1, 0⟩
    else ⟨rest, c.index + 1, c.line, if ch = '\uFEFF' then c.column else c.column + 1⟩

def steps : Nat → Cursor → Cursor
  | 0, c => c
  | n + 1, c => steps n c.step

/-- The longest run of characters of a class, and the place behind it. -/
def run (member : Char → Bool) (c : Cursor) : Text × Cursor :=
  let taken := c.rest.takeWhile member
  (taken, c.steps taken.length)

/-- The place behind a run of characters of a class. -/
def skip (member : Char → Bool) (c : Cursor) : Cursor := (c.run member).2

/-- The place behind the spaces that stand before a column. -/
def skipSpacesTo (indent : Nat) (c : Cursor) : Cursor :=
  let spaces := (c.rest.takeWhile (· = ' ')).length
  c.steps (min spaces (indent - c.column))

/-- The text of a line end and the place behind it; nothing where no line ends. -/
def lineBreak (c : Cursor) : Text × Cursor :=
  match c.rest with
  | '\r' :: '\n' :: _ => (['\n'], c.steps 2)
  | ch :: _ =>
    if ch = '\r' || ch = '\n' || ch = '\u0085' then (['\n'], c.step)
    else if isBreak ch then ([ch], c.step)
    else ([], c)
  | [] => ([], c)

/-- Whether three equal marks and a gap stand here. -/
def isAtMarker (c : Cursor) (mark : Char) : Bool :=
  Text.beginsWith [mark, mark, mark] c.rest && isGap (c.at? 3)

/-- Whether a marker between documents stands here. -/
def isAtSeparator (c : Cursor) : Bool := c.isAtMarker '-' || c.isAtMarker '.'

end Cursor

end Wording.Plain.Document
