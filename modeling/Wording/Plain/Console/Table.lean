import Wording.Console.Printout
import Wording.Number.Binary
import Wording.Plain.Console.Markup

/-!
Tables on a plain console, with a frame, heavy around the head. A column is as wide as its widest cell and has one space
on each side; a tabulator counts nothing for this, and what ends a line anywhere ends it here. A cell is then broken
into lines of the width of its column, and a cell of several lines makes its row as high. If a table is wider than the
console, its widest columns are narrowed until it fits.
-/

set_option autoImplicit false

namespace Wording.Plain.Console

open Wording.Console (Side Column Table)

/-- The rule of a frame at one height: its left end, its line, its crossings and its right end. -/
structure Rule where
  left : Char
  line : Char
  crossing : Char
  right : Char
deriving DecidableEq, Repr

/-- A line of text with spaces behind it up to a width. -/
def filled (columns : Nat) (line : Text) : Text := line ++ spaces (columns - width line)

/-- A line of text filled up with spaces to a width. A joiner at its end draws the first space behind it into the line,
which then needs one more. -/
def aligned (side : Side) (columns : Nat) (line : Text) : Text :=
  match side with
  | .left => filled columns (filled columns line)
  | .right => spaces (columns - width line) ++ line

/-- A line of text in the middle of a width, an odd space behind it. -/
def centred (columns : Nat) (line : Text) : Text :=
  let gap := (columns - width line) / 2
  aligned .left columns (spaces gap ++ line)

namespace Rule

def top : Rule := ⟨'┏', '━', '┳', '┓'⟩

def belowHead : Rule := ⟨'┡', '━', '╇', '┩'⟩

def bottom : Rule := ⟨'└', '─', '┴', '┘'⟩

/-- The text of a rule over columns of some widths. -/
def text (r : Rule) (widths : List Nat) : Text :=
  r.left :: Text.join [r.crossing] (widths.map fun w => List.replicate (w + 2) r.line) ++ [r.right]

end Rule

/-- Takes columns off all widths that equal the greatest: each gives its share of an excess, but not more
than a limit. -/
def narrowedEqually (greatest limit : Nat) : Nat → Nat → List Nat → List Nat
  | _, _, [] => []
  | excess, count, w :: rest =>
    if w = greatest then
      let share := min limit (Number.roundedQuotient excess count)
      (w - share) :: narrowedEqually greatest limit (excess - share) (count - 1) rest
    else w :: narrowedEqually greatest limit excess count rest

/-- Narrows widths from the greatest on until their sum is at most a limit, in some steps. -/
def narrowed (limit : Nat) : Nat → List Nat → List Nat
  | 0, widths => widths
  | steps + 1, widths =>
    let excess := widths.sum - limit
    if excess = 0 then widths
    else
      let greatest := widths.max?.getD 0
      let second := (widths.filter (· ≠ greatest)).max?.getD 0
      let count := (widths.filter (· = greatest)).length
      let cut := min excess (greatest - second)
      narrowed limit steps (narrowedEqually greatest cut excess count widths)

namespace Table

/-- Whether a character ends a line for the width of a cell. -/
def endsRow (c : Char) : Bool :=
  c = '\n' || ('\x1c' ≤ c && c ≤ '\x1e') || c = '\u0085' || c = '\u2028' || c = '\u2029'

def cellWidth (markup : Text) : Nat :=
  ((Text.splitOnClass endsRow (plain markup)).map width).max?.getD 0

def head (t : Table) : List Text := t.columns.map (·.title)

/-- The width of each column by its widest cell. -/
def naturalWidths (t : Table) : List Nat :=
  t.rows.foldl (fun ws row => List.zipWith max ws (row.map cellWidth)) ((head t).map cellWidth)

/-- The width of each column in a table that fits the console: the frame and the spaces beside the cells
take columns too. -/
def widths (t : Table) : List Nat :=
  let frame := t.columns.length + 1
  let limit := consoleWidth - frame
  let padded := (naturalWidths t).map fun w => min (w + 2) limit
  (narrowed limit consoleWidth padded).map (· - 2)

def cellLines (column : Column × Nat) (markup : Text) : List Text :=
  let (c, width) := column
  let lines := (Text.lines (plain markup)).flatMap fun line =>
    brokenLines width false (withoutTabs line)
  lines.map fun line =>
    match c.side with
    | .left => aligned .left width (shortened width line)
    | .right => aligned .right width (shortened width (Text.trimRight line))

def lineText (bar : Char) (pieces : List Text) : Text :=
  bar :: Text.join [bar] (pieces.map fun piece => ' ' :: piece ++ [' ']) ++ [bar]

/-- The lines of a row over columns with their widths; cells with fewer lines than others have blank ones below. -/
def rowLines (bar : Char) (columns : List (Column × Nat)) (row : List Text) : List Text :=
  let cells := List.zipWith cellLines columns row
  let height := (cells.map List.length).max?.getD 0
  (List.range height).map fun n =>
    lineText bar (List.zipWith (fun column lines => lines.getD n (spaces column.2)) columns cells)

def textLines (t : Table) : List Text :=
  let widths := widths t
  let columns := t.columns.zip widths
  let top := Rule.top.text widths
  [centred (width top) t.title, top] ++ rowLines '┃' columns (head t)
    ++ [Rule.belowHead.text widths] ++ t.rows.flatMap (rowLines '│' columns)
    ++ [Rule.bottom.text widths]

def text (t : Table) : Text := (textLines t).flatMap fun line => line ++ ['\n']

end Table

end Wording.Plain.Console
