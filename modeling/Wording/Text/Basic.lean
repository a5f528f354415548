/-!
Text is a list of characters, so that positions, lengths and cuts count characters. This module holds
the cuts and searches that every other module reads text with: lines, first occurrences, separators.
-/

set_option autoImplicit false

namespace Wording

/-- A text, character by character. -/
abbrev Text := List Char

namespace Text

/-- What follows a given beginning, if the text begins with it. -/
def dropBeginning? : Text → Text → Option Text
  | [], t => some t
  | _ :: _, [] => none
  | b :: bs, c :: cs => if b = c then dropBeginning? bs cs else none

/-- Whether the text begins with the given piece. -/
def beginsWith (piece t : Text) : Bool := (dropBeginning? piece t).isSome

/-- The position of the first occurrence of a piece in the text. -/
def indexOf? (piece : Text) : Text → Option Nat
  | [] => if piece = [] then some 0 else none
  | c :: cs => if beginsWith piece (c :: cs) then some 0 else (indexOf? piece cs).map (· + 1)

/-- Whether the piece occurs somewhere in the text. -/
def contains (t piece : Text) : Bool := (indexOf? piece t).isSome

/-- The text before the first occurrence of a piece and the text after it. -/
def cutAt? (piece : Text) : Text → Option (Text × Text)
  | [] => if piece = [] then some ([], []) else none
  | c :: cs =>
    match dropBeginning? piece (c :: cs) with
    | some rest => some ([], rest)
    | none => (cutAt? piece cs).map fun (before, rest) => (c :: before, rest)

/-- The parts between the occurrences of a separator; there is always at least one part. -/
def splitOnChar (separator : Char) : Text → List Text
  | [] => [[]]
  | c :: cs =>
    if c = separator then [] :: splitOnChar separator cs
    else match splitOnChar separator cs with
      | [] => [[c]]
      | part :: parts => (c :: part) :: parts

/-- The parts between the characters of a class; there is always at least one part. -/
def splitOnClass (member : Char → Bool) : Text → List Text
  | [] => [[]]
  | c :: cs =>
    if member c then [] :: splitOnClass member cs
    else match splitOnClass member cs with
      | [] => [[c]]
      | part :: parts => (c :: part) :: parts

/-- The lines of a text, which only a line feed ends. -/
def lines (t : Text) : List Text := splitOnChar '\n' t

def join (separator : Text) : List Text → Text
  | [] => []
  | [t] => t
  | t :: u :: rest => t ++ separator ++ join separator (u :: rest)

/-- Texts with a comma and a space between them. -/
def listed (ts : List Text) : Text := join [',', ' '] ts

/-- The text up to the next line feed, and the text from that line feed on. -/
def restOfLine : Text → Text × Text
  | [] => ([], [])
  | c :: cs => if c = '\n' then ([], c :: cs) else ((c :: (restOfLine cs).1), (restOfLine cs).2)

/-- Removes the elements that occurred before, and keeps the order of the first occurrences. -/
def firstSeen {α : Type} [BEq α] : List α → List α
  | [] => []
  | a :: rest => a :: (firstSeen rest).filter (· != a)

/-- The decimal digits of an integer, after a minus sign if it is negative. -/
def ofInt (n : Int) : Text :=
  match n with
  | .ofNat k => Nat.toDigits 10 k
  | .negSucc k => '-' :: Nat.toDigits 10 (k + 1)

/-- Code-point order: at the first difference the smaller character decides, and a beginning comes
before what continues it. -/
def le : Text → Text → Bool
  | [], _ => true
  | _ :: _, [] => false
  | a :: as, b :: bs => if a = b then le as bs else a.toNat < b.toNat

end Text

end Wording
