import Wording.Text.Basic

/-!
A reader of comma-separated values. A field stands bare, or between double quotes; between the quotes everything
belongs to the field, and a quote is written twice. Commas part the fields of a record, and line feeds part the
records; one line feed may end the text. The reader takes one character after the other and refuses a quote or a
carriage return in a bare field, what follows a closing quote, and a quote that is never closed.
-/

set_option autoImplicit false

namespace Wording.Export

/-- Where the reader stands in a field: before it, in a bare one, between quotes, or behind a quote that closes the
field unless another quote follows. -/
inductive FieldPlace where
  | start
  | bare
  | quoted
  | behindQuote
deriving DecidableEq, Repr

/-- What the reader has behind it: the field that it is in, the fields before it and the records before these. -/
structure TableReading where
  place : FieldPlace := .start
  field : Text := []
  record : List Text := []
  records : List (List Text) := []
deriving DecidableEq, Repr

namespace TableReading

/-- The record that the reader is in, with the field that it is in. -/
def fields (r : TableReading) : List Text := r.record ++ [r.field]

/-- The reader with one more character of its field, at a place in it. -/
def take (r : TableReading) (place : FieldPlace) (c : Char) : TableReading :=
  { r with place := place, field := r.field ++ [c] }

/-- The reader behind a character between fields or outside quotes. -/
def stepOutside (r : TableReading) (c : Char) : Option TableReading :=
  if c = ',' then some { place := .start, field := [], record := r.fields, records := r.records }
  else if c = '\n' then some { place := .start, field := [], record := [], records := r.records ++ [r.fields] }
  else
    match r.place, c with
    | .start, '"' => some { r with place := .quoted }
    | .behindQuote, '"' => some (r.take .quoted '"')
    | .behindQuote, _ => none
    | _, '"' => none
    | _, '\r' => none
    | _, _ => some (r.take .bare c)

/-- The reader behind one more character. -/
def step (r : TableReading) (c : Char) : Option TableReading :=
  if r.place = .quoted then
    if c = '"' then some { r with place := .behindQuote } else some (r.take .quoted c)
  else r.stepOutside c

/-- The records at the end of the text. Behind a line feed there is no further record. -/
def finish? (r : TableReading) : Option (List (List Text)) :=
  match r.place with
  | .quoted => none
  | .start => some (if r.record = [] then r.records else r.records ++ [r.fields])
  | _ => some (r.records ++ [r.fields])

end TableReading

/-- The records of a text, unless it is no table. -/
def readTable? (t : Text) : Option (List (List Text)) := do
  (← t.foldlM TableReading.step {}).finish?

end Wording.Export
