import Wording.Text.Basic
import Wording.Text.Blank

/-!
The tokens of a source text, by the kind that a reviewer sees them as, and the plain split of a text into
words for files of no known language.
-/

set_option autoImplicit false

namespace Wording

/-- The tokens of one source text and its lines. -/
structure Tokens where
  identifiers : List Text
  strings : List Text
  comments : List Text
  lines : List Text
deriving DecidableEq, Repr

namespace Tokens

/-- The words from here on, where `inGap` says that the last character was white space. -/
def wordsFrom (inGap : Bool) : Text → List Text
  | [] => [[]]
  | c :: cs =>
    if Text.isBlank c then
      if inGap then wordsFrom true cs else [] :: wordsFrom true cs
    else
      match wordsFrom false cs with
      | [] => [[c]]
      | w :: ws => (c :: w) :: ws

/-- The parts between the runs of white space; a run at either end leaves an empty part there. -/
def splitWords (t : Text) : List Text := wordsFrom false t

end Tokens

end Wording
