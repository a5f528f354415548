import Wording.Text.Basic

/-!
What is handed to a console to be printed: marked-up text, in which tags between square brackets give the text between
them a style, and tables with marked-up cells. How a console prints it is its own affair.
-/

set_option autoImplicit false

namespace Wording.Console

/-- Where the text of a column stands. -/
inductive Side where
  | left
  | right
deriving DecidableEq, Repr

/-- A column with its title, its style, if it has one, and the side at which its text stands. -/
structure Column where
  title : Text
  style : Text := []
  side : Side := .left
deriving DecidableEq, Repr

/-- A table: its title, its columns, and rows of marked-up cells. -/
structure Table where
  title : Text
  columns : List Column
  rows : List (List Text)
deriving DecidableEq, Repr

/-- What is handed to a console at once. -/
inductive Printout where
  | text (markup : Text)
  | table (t : Table)
deriving DecidableEq, Repr

/-- A text between the tags of a style. -/
def styled (style t : Text) : Text := '[' :: style ++ ']' :: t ++ "[/".toList ++ style ++ [']']

end Wording.Console
