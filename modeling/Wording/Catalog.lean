import Wording.Files.Path
import Wording.Text.Lowercase
import Wording.Tokens.JavaScript
import Wording.Tokens.TypeScript
import Wording.Tokens.Python

/-!
The catalog of languages: which parser reads which language, which file extensions belong to it, and how
the language of a file is told. A language that is registered again keeps its place.
-/

set_option autoImplicit false

namespace Wording

/-- A parser of one language. A parser may give up on a text, with a message. -/
structure Parser where
  language : Text
  extensions : List Text
  parse : Text → Except Text Tokens

namespace Parser

/-- The parser of JavaScript. -/
def javaScript : Parser where
  language := "javascript".toList
  extensions := [".js", ".jsx", ".mjs"].map String.toList
  parse t := .ok (Tokens.JavaScript.tokens t)

/-- The parser of TypeScript. -/
def typeScript : Parser where
  language := "typescript".toList
  extensions := [".ts", ".tsx"].map String.toList
  parse t := .ok (Tokens.TypeScript.tokens t)

/-- The parser of Python. -/
def python : Parser where
  language := "python".toList
  extensions := [".py", ".pyw", ".pyi"].map String.toList
  parse t := .ok (Tokens.Python.tokens t)

end Parser

/-- Parsers by the order in which their languages were first registered. -/
structure Catalog where
  parsers : List Parser

namespace Catalog

/-- The catalog without a parser. -/
def empty : Catalog := ⟨[]⟩

/-- Puts a parser in the place of the one for its language, or at the end. -/
def place (p : Parser) : List Parser → List Parser
  | [] => [p]
  | q :: rest => if q.language = p.language then p :: rest else q :: place p rest

/-- Registers a parser. -/
def register (c : Catalog) (p : Parser) : Catalog := ⟨place p c.parsers⟩

/-- The catalog of some parsers, registered one after the other. -/
def ofParsers (ps : List Parser) : Catalog := ps.foldl register empty

/-- The catalog of the built-in parsers. -/
def builtin : Catalog := ofParsers [.javaScript, .typeScript, .python]

/-- The languages, each once. -/
def languages (c : Catalog) : List Text := c.parsers.map (·.language)

/-- The parser of a language. -/
def parser? (c : Catalog) (language : Text) : Option Parser :=
  c.parsers.find? fun p => p.language = language

/-- The first parser that lists an extension in small letters. -/
def parserOfExtension? (c : Catalog) (extension : Text) : Option Parser :=
  c.parsers.find? fun p => p.extensions.contains (Text.lower extension)

/-- The extensions of all parsers, each once. -/
def extensions (c : Catalog) : List Text := Text.firstSeen (c.parsers.flatMap (·.extensions))

/-- The language of files that no parser reads. -/
def plainText : Text := "text".toList

/-- Words that hint at a language, in the order in which they are tried. -/
def hints : List (Text × List Text) :=
  [("python".toList, ["def ".toList, "import ".toList]),
   ("javascript".toList, ["function ".toList, "const ".toList]),
   ("typescript".toList, ["interface ".toList, "type ".toList])]

/-- The language that the content of a file hints at. -/
def hintedLanguage (content : Text) : Text :=
  match hints.find? fun hint => hint.2.any (Text.contains content) with
  | some hint => hint.1
  | none => plainText

/-- The extension of a file name: what follows the last point of its last part, with the point. A name
that begins with its only point is all extension. -/
def fileExtension (filename : Text) : Text :=
  let name := Path.name filename
  if List.contains name '.' then '.' :: (name.reverse.takeWhile (· ≠ '.')).reverse else []

/-- The language of a file: by its extension, else by what its content hints at, else plain text. -/
def detect (c : Catalog) (filename content : Text) : Text :=
  match c.parserOfExtension? (fileExtension filename) with
  | some p => p.language
  | none => hintedLanguage content

end Catalog

end Wording
