import Wording.Text.WordChar
import Wording.Text.Lowercase
import Wording.Tokens.Basic
import Wording.Tokens.Name
import Wording.Tokens.Comment
import Wording.Tokens.Literal

/-!
The tokens of JavaScript sources. Names are read from the text without its comments; literals and comments
are read from the text as it is.
-/

set_option autoImplicit false

namespace Wording.Tokens.JavaScript

/-- The reserved words, those of former editions included. -/
def keywords : List Text :=
  ["abstract", "arguments", "await", "boolean", "break", "byte", "case", "catch", "char", "class",
   "const", "continue", "debugger", "default", "delete", "do", "double", "else", "enum", "eval",
   "export", "extends", "false", "final", "finally", "float", "for", "function", "goto", "if",
   "implements", "import", "in", "instanceof", "int", "interface", "let", "long", "native", "new",
   "null", "package", "private", "protected", "public", "return", "short", "static", "super",
   "switch", "synchronized", "this", "throw", "throws", "transient", "true", "try", "typeof", "var",
   "void", "volatile", "while", "with", "yield"].map String.toList

/-- Whether a name is a keyword of a list, letter case aside. -/
def isAmong (words : List Text) (name : Text) : Bool := words.contains (Text.lower name)

/-- Whether a name is reserved, letter case aside. -/
def isKeyword (name : Text) : Bool := isAmong keywords name

/-- A name behind a word that declares a variable, where that word begins a word. -/
def declared : Pattern := fun before t =>
  if before.any Text.isWordChar then none
  else dollarAlphabet.afterWord (["var", "let", "const"].map String.toList) before t

def namePatterns : List Pattern :=
  [declared,
   dollarAlphabet.afterWord ["function".toList],
   dollarAlphabet.afterWord ["class".toList],
   dollarAlphabet.afterPoint,
   dollarAlphabet.beforeMark ':',
   dollarAlphabet.beforeMark '(']

/-- The text without its block comments and then without its line comments. -/
def stripComments (t : Text) : Text :=
  (toLineEnd "//".toList).erasing.replace ((between "/*".toList "*/".toList).erasing.replace t)

/-- Line comments first, then block comments. -/
def comments (t : Text) : List Text :=
  lineComments "//".toList t ++ blockComments "/*".toList "*/".toList t

/-- The names in a text, each once, without the words of a list. -/
def identifiersWithout (words : List Text) (t : Text) : List Text :=
  collectNames namePatterns (isAmong words) false t

/-- The names in a text, each once, without the reserved words. -/
def identifiers (t : Text) : List Text := identifiersWithout keywords t

def tokens (t : Text) : Tokens :=
  ⟨identifiers (stripComments t), quotedLiterals t, comments t, Text.lines t⟩

end Wording.Tokens.JavaScript
