import Wording.Tokens.JavaScript

/-!
The tokens of TypeScript sources: those of JavaScript, with more reserved words, with simple type
annotations taken out before names are read, and with the names of type declarations behind the others.
-/

set_option autoImplicit false

namespace Wording.Tokens.TypeScript

/-- The words that TypeScript reserves and JavaScript does not. -/
def ownKeywords : List Text :=
  ["any", "as", "asserts", "bigint", "constructor", "declare", "get", "infer", "intrinsic", "is",
   "keyof", "module", "namespace", "never", "readonly", "require", "number", "object", "set",
   "string", "symbol", "type", "undefined", "unique", "unknown", "from", "global", "of",
   "satisfies"].map String.toList

def keywords : List Text := JavaScript.keywords ++ ownKeywords

/-- Whether a name is reserved, letter case aside. -/
def isKeyword (name : Text) : Bool := JavaScript.isAmong keywords name

/-- The characters of a simple type behind its first one. -/
def typeAlphabet : Alphabet :=
  ⟨dollarAlphabet.first, fun c =>
    dollarAlphabet.later c || c = '<' || c = '>' || c = '|' || c = '[' || c = ']'⟩

/-- A colon, a simple type and a mark, for which `kept` is left. -/
def annotated (mark : Char) (kept : Text) : Pattern := fun _ t => do
  let (_, behind) ← typeAlphabet.takeName? (skipBlanks (← Text.dropBeginning? [':'] t))
  let rest ← Text.dropBeginning? [mark] (skipBlanks behind)
  pure ⟨kept, rest⟩

/-- The text without its comments, then without annotations before an equals sign, then without those
before a semicolon. -/
def stripCommentsAndTypes (t : Text) : Text :=
  (annotated ';' [';']).replace ((annotated '=' [' ', '=', ' ']).replace (JavaScript.stripComments t))

/-- The shapes in which the names of types are declared. -/
def typePatterns : List Pattern :=
  ["interface", "type", "enum", "namespace"].map fun word => dollarAlphabet.afterWord [word.toList]

/-- The names in a text, each once: those that JavaScript finds, then those of type declarations. -/
def identifiers (t : Text) : List Text :=
  Text.firstSeen
    (JavaScript.identifiersWithout keywords t ++ collectNames typePatterns isKeyword false t)

def tokens (t : Text) : Tokens :=
  ⟨identifiers (stripCommentsAndTypes t), quotedLiterals t, JavaScript.comments t, Text.lines t⟩

end Wording.Tokens.TypeScript
