import Wording.Text.Basic
import Wording.Text.Blank

/-!
A pattern is asked at a place in a text and answers what it takes there. Reading a text by a pattern goes
from left to right: where the pattern takes something, reading goes on behind it, so that no two pieces
overlap. The module also holds the steps that the patterns of all languages are made of.
-/

set_option autoImplicit false

namespace Wording.Tokens

/-- What a pattern takes at a place: the piece it is asked for, and the text behind all that it takes. -/
structure Hit where
  piece : Text
  rest : Text

/-- A pattern, asked with the character before the place and the text from the place on. -/
abbrev Pattern := Option Char → Text → Option Hit

/-- The pieces of a text behind `before`, after `skip` characters that the last hit has taken. -/
def Pattern.piecesFrom (p : Pattern) (before : Option Char) (skip : Nat) : Text → List Text
  | [] => []
  | c :: cs =>
    match skip with
    | k + 1 => piecesFrom p (some c) k cs
    | 0 =>
      match p before (c :: cs) with
      | some hit => hit.piece :: piecesFrom p (some c) (cs.length - hit.rest.length) cs
      | none => piecesFrom p (some c) 0 cs

/-- The pieces that a pattern takes from a text, from left to right. -/
def Pattern.pieces (p : Pattern) (t : Text) : List Text := p.piecesFrom none 0 t

/-- Puts the pattern's piece in the place of all that it takes, after `skip` characters that the last hit
has taken. -/
def Pattern.replaceFrom (p : Pattern) (before : Option Char) (skip : Nat) : Text → Text
  | [] => []
  | c :: cs =>
    match skip with
    | k + 1 => replaceFrom p (some c) k cs
    | 0 =>
      match p before (c :: cs) with
      | some hit => hit.piece ++ replaceFrom p (some c) (cs.length - hit.rest.length) cs
      | none => c :: replaceFrom p (some c) 0 cs

/-- Puts the pattern's piece in the place of all that it takes, from left to right. -/
def Pattern.replace (p : Pattern) (t : Text) : Text := p.replaceFrom none 0 t

/-- The text before the first hit, and for each hit its piece and the text up to the next one, after `skip`
characters that the last hit has taken. -/
def Pattern.splitFrom (p : Pattern) (before : Option Char) (skip : Nat) :
    Text → Text × List (Text × Text)
  | [] => ([], [])
  | c :: cs =>
    match skip with
    | k + 1 => splitFrom p (some c) k cs
    | 0 =>
      match p before (c :: cs) with
      | some hit =>
        let (between, more) := splitFrom p (some c) (cs.length - hit.rest.length) cs
        ([], (hit.piece, between) :: more)
      | none =>
        let (between, more) := splitFrom p (some c) 0 cs
        (c :: between, more)

/-- The text before the first hit of a pattern, and for each hit its piece and the text up to the next. -/
def Pattern.split (p : Pattern) (t : Text) : Text × List (Text × Text) := p.splitFrom none 0 t

/-- The text behind the white space at its beginning, of which there may be none. -/
def skipBlanks (t : Text) : Text := t.dropWhile Text.isBlank

/-- The text behind the white space at its beginning, of which there must be some. -/
def skipSomeBlanks? : Text → Option Text
  | [] => none
  | c :: cs => if Text.isBlank c then some (skipBlanks cs) else none

/-- The longest run of characters of a class at the beginning, which must not be empty, and the rest. -/
def takeRun? (member : Char → Bool) : Text → Option (Text × Text)
  | [] => none
  | c :: cs => if member c then some (c :: cs.takeWhile member, cs.dropWhile member) else none

end Wording.Tokens
