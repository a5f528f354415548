import Wording.Tokens.Pattern

/-!
Literals between quotation marks. A backslash keeps the character behind it from closing the literal;
a backslash before a line feed or at the end of the text leaves the literal open, and an open literal is
none.
-/

set_option autoImplicit false

namespace Wording.Tokens

/-- The body of a literal that is already open, and the text behind its closing mark. -/
def literalBody? (quote : Char) : Text → Option (Text × Text)
  | [] => none
  | [c] => if c = quote then some ([], []) else none
  | c :: d :: cs =>
    if c = quote then some ([], d :: cs)
    else if c = '\\' then
      if d = '\n' then none
      else (literalBody? quote cs).map fun (body, rest) => (c :: d :: body, rest)
    else (literalBody? quote (d :: cs)).map fun (body, rest) => (c :: body, rest)

/-- A literal between two equal marks; its piece is the body. -/
def quoted (quote : Char) : Pattern := fun _ t => do
  let (body, rest) ← literalBody? quote (← Text.dropBeginning? [quote] t)
  pure ⟨body, rest⟩

/-- The bodies of all literals: those in double quotes first, then single quotes, then backquotes. Each
kind is read over the whole text, whatever the others find there. -/
def quotedLiterals (t : Text) : List Text :=
  ['"', '\'', '`'].flatMap fun quote => (quoted quote).pieces t

end Wording.Tokens
