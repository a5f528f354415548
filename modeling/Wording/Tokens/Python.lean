import Wording.Text.WordChar
import Wording.Tokens.Basic
import Wording.Tokens.Name
import Wording.Tokens.Comment
import Wording.Tokens.Literal

/-!
The tokens of Python sources. Names are read from the text without docstrings and comments. Literals are
read by eight patterns, each over the whole text, so that a literal with a letter before it is found
twice.
-/

set_option autoImplicit false

namespace Wording.Tokens.Python

def keywords : List Text :=
  ["False", "None", "True", "and", "as", "assert", "async", "await", "break", "class", "continue",
   "def", "del", "elif", "else", "except", "finally", "for", "from", "global", "if", "import", "in",
   "is", "lambda", "nonlocal", "not", "or", "pass", "raise", "return", "try", "while", "with",
   "yield"].map String.toList

/-- Whether a name is reserved, in exactly this letter case. -/
def isKeyword (name : Text) : Bool := keywords.contains name

/-- A name behind `for` and white space, with white space and `in` behind it. -/
def loopVariable : Pattern := fun _ t => do
  let (name, behind) ←
    plainAlphabet.takeName? (← skipSomeBlanks? (← Text.dropBeginning? "for".toList t))
  let rest ← Text.dropBeginning? "in".toList (← skipSomeBlanks? behind)
  pure ⟨name, rest⟩

/-- White space, `as`, white space and a name. -/
def alias? (t : Text) : Option Hit := do
  let behind ← Text.dropBeginning? "as".toList (← skipSomeBlanks? t)
  let (name, rest) ← plainAlphabet.takeName? (← skipSomeBlanks? behind)
  pure ⟨name, rest⟩

/-- The name that an exception of a named kind is bound to. -/
def caughtException : Pattern := fun _ t => do
  let (_, behind) ←
    takeRun? Text.isWordChar (← skipSomeBlanks? (← Text.dropBeginning? "except".toList t))
  alias? behind

/-- The last place on this line, at least one character on, where `ask` answers. -/
def lastOnLine (ask : Text → Option Hit) : Text → Option Hit
  | [] => none
  | c :: cs => if c = '\n' then none else (lastOnLine ask cs).or (ask cs)

/-- The last place behind at least one and nothing but white-space characters where `ask` answers. -/
def lastBehindBlanks (ask : Text → Option Hit) : Text → Option Hit
  | [] => none
  | c :: cs => if Text.isBlank c then (lastBehindBlanks ask cs).or (ask cs) else none

/-- The last name that a context on the line is bound to. -/
def boundContext : Pattern := fun _ t => do
  lastBehindBlanks (lastOnLine alias?) (← Text.dropBeginning? "with".toList t)

def pathAlphabet : Alphabet :=
  ⟨plainAlphabet.first, fun c => plainAlphabet.later c || c = '.'⟩

/-- Names, commas, spaces and tabs. -/
def listAlphabet : Alphabet :=
  ⟨plainAlphabet.first, fun c => plainAlphabet.later c || c = ',' || c = ' ' || c = '\t'⟩

/-- The list of names that is imported from a module. -/
def importedList : Pattern := fun _ t => do
  let (_, behind) ←
    pathAlphabet.takeName? (← skipSomeBlanks? (← Text.dropBeginning? "from".toList t))
  let behind ← Text.dropBeginning? "import".toList (← skipSomeBlanks? behind)
  let (names, rest) ← listAlphabet.takeName? (← skipSomeBlanks? behind)
  pure ⟨names, rest⟩

def namePatterns : List Pattern :=
  [plainAlphabet.afterWord ["def".toList, "class".toList],
   plainAlphabet.beforeMark '=',
   loopVariable,
   caughtException,
   boundContext,
   pathAlphabet.afterWord ["import".toList],
   importedList,
   plainAlphabet.afterPoint,
   plainAlphabet.beforeMark '(']

/-- Three double quotes, which open and close a docstring. -/
def tripleDouble : Text := ['"', '"', '"']

/-- Three single quotes, which open and close a docstring. -/
def tripleSingle : Text := ['\'', '\'', '\'']

/-- The text without its docstrings and then without its comments. -/
def stripComments (t : Text) : Text :=
  (toLineEnd ['#']).erasing.replace
    ((between tripleSingle tripleSingle).erasing.replace
      ((between tripleDouble tripleDouble).erasing.replace t))

/-- Comments first, then docstrings in double quotes, then those in single quotes. -/
def comments (t : Text) : List Text :=
  lineComments ['#'] t ++ blockComments tripleDouble tripleDouble t
    ++ blockComments tripleSingle tripleSingle t

def docstring (mark : Text) : Pattern := fun before t =>
  (between mark mark before t).map fun hit => ⟨mark ++ hit.piece ++ mark, hit.rest⟩

/-- A whole literal between two equal quotes behind some letters. -/
def literal (letters : Text) (quote : Char) : Pattern := fun before t => do
  let hit ← quoted quote before (← Text.dropBeginning? letters t)
  pure ⟨letters ++ quote :: hit.piece ++ [quote], hit.rest⟩

/-- The shapes of literals, docstrings first. -/
def literalPatterns : List Pattern :=
  [docstring tripleDouble, docstring tripleSingle,
   literal [] '"', literal [] '\'',
   literal ['f'] '"', literal ['f'] '\'',
   literal ['r'] '"', literal ['r'] '\'']

/-- Whether a letter can stand before the opening quote of a literal. -/
def isLiteralLetter (c : Char) : Bool := "frbFRB".toList.contains c

/-- The text behind a quote at its beginning; three equal quotes count as one. -/
def dropQuote? : Text → Option Text
  | '"' :: '"' :: '"' :: rest => some rest
  | '\'' :: '\'' :: '\'' :: rest => some rest
  | '"' :: rest => some rest
  | '\'' :: rest => some rest
  | _ => none

/-- Takes off the letters and the quote that open a literal; a text that none opens stays. -/
def stripOpening (t : Text) : Text :=
  (dropQuote? (t.dropWhile isLiteralLetter)).getD t

/-- Takes off the quote at the end, or before one line feed at the end; a text without one stays. -/
def stripClosing (t : Text) : Text :=
  match t.reverse with
  | '\n' :: r => ((dropQuote? r).getD r).reverse ++ ['\n']
  | r => ((dropQuote? r).getD r).reverse

/-- The body of a literal. -/
def stripDelimiters (t : Text) : Text := stripClosing (stripOpening t)

/-- The bodies of all literals, by the order of the patterns. -/
def strings (t : Text) : List Text :=
  literalPatterns.flatMap fun p => (p.pieces t).map stripDelimiters

/-- The names in a text, each once, without the reserved words; an imported list is taken apart. -/
def identifiers (t : Text) : List Text := collectNames namePatterns isKeyword true t

def tokens (t : Text) : Tokens :=
  ⟨identifiers (stripComments t), strings t, comments t, Text.lines t⟩

end Wording.Tokens.Python
