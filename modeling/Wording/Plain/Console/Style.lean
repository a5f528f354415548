import Wording.Tokens.Pattern

/-!
Style sequences, with which terminals are told colours and cursor moves: the escape character, a bracket,
parameters, marks between them and the end, and one character that ends the sequence. They are taken out of
what is printed to anything but a terminal.
-/

set_option autoImplicit false

namespace Wording.Plain.Console

/-- Whether a character may be a parameter of a style sequence: a digit or one of six signs. -/
def isStyleParameter (c : Char) : Bool := '0' ≤ c && c ≤ '?'

/-- Whether a character may stand between the parameters and the end of a style sequence. -/
def isStyleMark (c : Char) : Bool := ' ' ≤ c && c ≤ '/'

def endsStyle (c : Char) : Bool := '@' ≤ c && c ≤ '~'

/-- Takes a style sequence and leaves nothing in its place. -/
def styleSequence : Tokens.Pattern := fun _ t =>
  match t with
  | '\x1b' :: '[' :: rest =>
    match (rest.dropWhile isStyleParameter).dropWhile isStyleMark with
    | c :: behind => if endsStyle c then some ⟨[], behind⟩ else none
    | [] => none
  | _ => none

def withoutStyle (t : Text) : Text := styleSequence.replace t

end Wording.Plain.Console
