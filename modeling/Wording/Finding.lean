import Wording.Text.Lowercase
import Wording.Settings.Basic

/-!
Findings: places in the lines of a source where a token stands that holds a term. They are made by a matcher, which is
built from settings once and has the texts of their terms ready in the form in which texts are compared. A token is
looked for in every line, so it is found once in each line that holds it, wherever the token itself was read.
Identifiers report their first term alone, strings and comments report all of them.
-/

set_option autoImplicit false

namespace Wording

/-- The kind of token that a finding was made in. -/
inductive TokenKind where
  | identifier
  | string
  | comment
deriving DecidableEq, Repr

def TokenKind.text : TokenKind → Text
  | .identifier => "identifier".toList
  | .string => "string".toList
  | .comment => "comment".toList

def TokenKind.ofText (t : Text) : Except UnknownChoice TokenKind :=
  match [TokenKind.identifier, .string, .comment].find? fun k => k.text = t with
  | some k => .ok k
  | none => .error ⟨.ok (Text.shown t), "OccurrenceType"⟩

/-- A token with a term in it, at a line counted from one and a column counted from zero. -/
structure Finding where
  kind : TokenKind
  line : Int
  column : Int
  content : Text
  context : Text
  term : Term
deriving DecidableEq, Repr

/-- Whether letter case matters, and the terms in their order, each with its text in the form in which texts are
compared. -/
structure Matcher where
  caseSensitive : Bool
  terms : List (Term × Text)
deriving DecidableEq, Repr

/-- The form in which texts are compared. -/
def Text.folded (caseSensitive : Bool) (t : Text) : Text := if caseSensitive then t else Text.lower t

/-- The matcher of settings. -/
def Settings.matcher (s : Settings) : Matcher :=
  { caseSensitive := s.caseSensitive
    terms := s.terms.map fun term => (term, Text.folded s.caseSensitive term.text) }

namespace Matcher

/-- The form in which a matcher compares texts. -/
def fold (m : Matcher) (t : Text) : Text := Text.folded m.caseSensitive t

def firstTerm? (m : Matcher) (token : Text) : Option Term :=
  let search := m.fold token
  (m.terms.find? fun (_, folded) => Text.contains search folded).map (·.1)

/-- All terms that a token holds, in their order. -/
def allTerms (m : Matcher) (token : Text) : List Term :=
  let search := m.fold token
  (m.terms.filter fun (_, folded) => Text.contains search folded).map (·.1)

/-- Whether a token holds a term, be it one of the matcher or not. -/
def holds (m : Matcher) (token : Text) (term : Term) : Bool :=
  Text.contains (m.fold token) (m.fold term.text)

/-- The findings of a token with a term in lines of which the first has a number. -/
def locateFrom (m : Matcher) (kind : TokenKind) (token : Text) (term : Term) (number : Nat) :
    List Text → List Finding
  | [] => []
  | line :: rest =>
    let later := locateFrom m kind token term (number + 1) rest
    match Text.indexOf? (m.fold token) (m.fold line) with
    | some column => ⟨kind, number, column, token, Text.trim line, term⟩ :: later
    | none => later

/-- One finding for each line that holds the token, if the token holds the term. -/
def locate (m : Matcher) (kind : TokenKind) (token : Text) (term : Term) (lines : List Text) :
    List Finding :=
  if token ≠ [] && m.holds token term then m.locateFrom kind token term 1 lines else []

/-- The terms that a token of a kind reports. -/
def reportedTerms (m : Matcher) (kind : TokenKind) (token : Text) : List Term :=
  match kind with
  | .identifier => (m.firstTerm? token).toList
  | _ => m.allTerms token

/-- The findings of some tokens of a kind, token by token, term by term and line by line. -/
def findings (m : Matcher) (kind : TokenKind) (tokens lines : List Text) : List Finding :=
  tokens.flatMap fun token =>
    (m.reportedTerms kind token).flatMap fun term => m.locate kind token term lines

end Matcher

end Wording
