import Wording.Tokens.Pattern

/-!
Names in source code and the shapes in which they are found: after a word that declares them, after a
point, and before a mark. A name is always taken to its end.
-/

set_option autoImplicit false

namespace Wording.Tokens

/-- Whether a character is a Latin letter of ASCII. -/
def isLetter (c : Char) : Bool := ('a' ≤ c && c ≤ 'z') || ('A' ≤ c && c ≤ 'Z')

def isDigit (c : Char) : Bool := '0' ≤ c && c ≤ '9'

/-- The characters that a language lets begin a name and go on with it. -/
structure Alphabet where
  first : Char → Bool
  later : Char → Bool

/-- Letters and low lines, and digits behind them. -/
def plainAlphabet : Alphabet :=
  ⟨fun c => isLetter c || c = '_', fun c => isLetter c || isDigit c || c = '_'⟩

def dollarAlphabet : Alphabet :=
  ⟨fun c => plainAlphabet.first c || c = '$', fun c => plainAlphabet.later c || c = '$'⟩

namespace Alphabet

/-- Whether a text is a name. -/
def isName (a : Alphabet) : Text → Bool
  | [] => false
  | c :: cs => a.first c && cs.all a.later

/-- The name at the beginning of a text and the text behind it. -/
def takeName? (a : Alphabet) : Text → Option (Text × Text)
  | [] => none
  | c :: cs => if a.first c then some (c :: cs.takeWhile a.later, cs.dropWhile a.later) else none

/-- A name behind one of some words and white space. -/
def afterWord (a : Alphabet) (words : List Text) : Pattern := fun _ t =>
  words.findSome? fun word => do
    let (name, rest) ← a.takeName? (← skipSomeBlanks? (← Text.dropBeginning? word t))
    pure ⟨name, rest⟩

def afterPoint (a : Alphabet) : Pattern := fun _ t => do
  let (name, rest) ← a.takeName? (← Text.dropBeginning? ['.'] t)
  pure ⟨name, rest⟩

/-- A name before a mark, with or without white space between them. -/
def beforeMark (a : Alphabet) (mark : Char) : Pattern := fun _ t => do
  let (name, behind) ← a.takeName? t
  let rest ← Text.dropBeginning? [mark] (skipBlanks behind)
  pure ⟨name, rest⟩

end Alphabet

/-- The names that a piece stands for: none if it is blank or a keyword, the parts between its commas if
they separate, else itself. -/
def namesOf (isKeyword : Text → Bool) (commasSeparate : Bool) (piece : Text) : List Text :=
  let name := Text.trim piece
  if name = [] || isKeyword name then []
  else if commasSeparate && name.contains ',' then (Text.splitOnChar ',' name).map Text.trim
  else [name]

/-- The names that some patterns find in a text, each once, in the order of the patterns and then of the
text. -/
def collectNames (patterns : List Pattern) (isKeyword : Text → Bool) (commasSeparate : Bool)
    (t : Text) : List Text :=
  Text.firstSeen
    ((patterns.flatMap fun p => (p.pieces t).flatMap (namesOf isKeyword commasSeparate)).filter
      (· ≠ []))

end Wording.Tokens
