import Wording.Text.Blank
import Wording.Plain.Width

/-!
Lines that are longer than the columns they may take are broken before words. White space stays with the
word before it and may stick out, where it is taken off. A word that is longer than a line begins a line of
its own, and is broken itself only where that is asked for.
-/

set_option autoImplicit false

namespace Wording.Plain.Console

/-- The columns between two stops of the tabulator. -/
def tabStop : Nat := 8

def spaces (n : Nat) : Text := List.replicate n ' '

/-- Parts with spaces up to the next stop of the tabulator between them, the first of them at a column. -/
def joinAtStops (column : Nat) : List Text → Text
  | [] => []
  | [part] => part
  | part :: rest =>
    let behind := column + width (part ++ [' '])
    let gap := (tabStop - behind % tabStop) % tabStop
    part ++ spaces (gap + 1) ++ joinAtStops (behind + gap) rest

/-- A line with spaces up to the next stop in the place of each tabulator. -/
def withoutTabs (line : Text) : Text := joinAtStops 0 (Text.splitOnChar '\t' line)

/-- The words of a line, each with the white space behind it, and the first with that before it too. A line
of white space has none. -/
def words (line : Text) : List Text :=
  match line.splitBy fun c d => !Text.isBlank c || Text.isBlank d with
  | first :: second :: rest =>
    if Text.isAllBlank first then (first ++ second) :: rest else first :: second :: rest
  | [piece] => if Text.isAllBlank piece then [] else [piece]
  | [] => []

/-- Lines that are being filled: those that are full, the last of them first, and the open one with its
columns. -/
structure Filling where
  full : List Text
  line : Text
  columns : Nat

namespace Filling

def beginLine (f : Filling) (piece : Text) : Filling :=
  if f.line = [] then { f with line := piece, columns := width piece }
  else ⟨f.line :: f.full, piece, width piece⟩

def lines (f : Filling) : List Text := (f.line :: f.full).reverse

end Filling

/-- Clusters packed into pieces of at most some columns, behind an open piece and its columns. -/
def packed (limit : Nat) (piece : Text) (columns : Nat) : List Cluster → List Text
  | [] => if piece = [] then [] else [piece]
  | k :: rest =>
    if limit < columns + k.width then piece :: packed limit k.text k.width rest
    else packed limit (piece ++ k.text) (columns + k.width) rest

/-- Adds a word to lines of at most some columns. -/
def Filling.add (limit : Nat) (breaksWords : Bool) (f : Filling) (word : Text) : Filling :=
  let columns := width (Text.trimRight word)
  if f.columns + columns ≤ limit then
    { f with line := f.line ++ word, columns := f.columns + width word }
  else if breaksWords && limit < columns then
    (packed limit [] 0 (clusters word)).foldl Filling.beginLine f
  else f.beginLine word

/-- Takes white space off the end of a line as far as the line has more characters than columns. -/
def withoutOverhang (limit : Nat) (line : Text) : Text :=
  let blanks := (line.reverse.takeWhile Text.isBlank).length
  line.take (line.length - min blanks (line.length - limit))

/-- A line broken into lines of at most some columns. -/
def brokenLines (limit : Nat) (breaksWords : Bool) (line : Text) : List Text :=
  let lines :=
    match words line with
    | [] => [line]
    | first :: rest => ((first :: rest).foldl (Filling.add limit breaksWords) ⟨[], [], 0⟩).lines
  lines.map (withoutOverhang limit)

/-- A line that ends in an ellipsis if it takes more than some columns. -/
def shortened (limit : Nat) (line : Text) : Text :=
  if limit < width line then cutToWidth (limit - 1) line ++ ['…'] else line

end Wording.Plain.Console
