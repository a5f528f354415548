import Wording.Tokens.Pattern

/-!
Comments that a mark begins and the line ends, and comments between two marks. The pieces of a comment
are trimmed; an eraser takes the whole comment out of a text. Marks may be empty: then the places between
characters count as marks too.
-/

set_option autoImplicit false

namespace Wording.Tokens

/-- A mark and the rest of its line. -/
def toLineEnd (mark : Text) : Pattern := fun _ t => do
  let (body, rest) := Text.restOfLine (← Text.dropBeginning? mark t)
  pure ⟨body, rest⟩

/-- An opening mark, the text up to the next closing mark, and that mark. -/
def between (opening closing : Text) : Pattern := fun _ t => do
  let (body, rest) ← Text.cutAt? closing (← Text.dropBeginning? opening t)
  pure ⟨body, rest⟩

/-- A pattern that takes the same and leaves nothing. -/
def Pattern.erasing (p : Pattern) : Pattern := fun before t =>
  (p before t).map fun hit => ⟨[], hit.rest⟩

/-- The trimmed texts behind the first mark of each line that has one. An empty mark stands at the
beginning of each line and, where the line is not empty, once more at its end. -/
def lineComments (mark t : Text) : List Text :=
  if mark = [] then
    (Text.lines t).flatMap fun line => if line = [] then [[]] else [Text.trim line, []]
  else ((toLineEnd mark).pieces t).map Text.trim

/-- The trimmed texts between an opening mark and the next closing mark. If both are empty, the text falls
into its single characters with nothing between them. -/
def blockComments (opening closing t : Text) : List Text :=
  if opening = [] ∧ closing = [] then [] :: t.flatMap fun c => [Text.trim [c], []]
  else ((between opening closing).pieces t).map Text.trim

end Wording.Tokens
