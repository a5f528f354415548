import Wording.Plain.Document.Cursor
import Wording.Text.CodePoints
import Wording.Text.Digit

/-!
The texts of scalars: plain, between quotes, and in indented blocks. Line ends inside a scalar are folded:
one line end becomes a space, and of several the first is dropped. Every step of the loops takes at least
one character, so the length of the text bounds them.
-/

set_option autoImplicit false

namespace Wording.Plain.Document

/-- What line ends become when a scalar goes on behind them: the first one and those of the empty lines
after it. -/
def folded (first : Text) (later : Text) : Text :=
  if first ≠ ['\n'] then first ++ later else if later = [] then [' '] else later

/-- The line ends of empty lines inside quotes, and the place behind them and their indentation. A marker
between documents must not stand there. -/
def quotedBreaks : Nat → Cursor → Except DocumentError (Text × Cursor)
  | 0, _ => .error .malformed
  | fuel + 1, c =>
    if c.isAtSeparator then .error .malformed
    else
      let c := c.skip fun ch => ch = ' ' || ch = '\t'
      match c.lineBreak with
      | ([], _) => .ok ([], c)
      | (first, c) => do
        let (later, c) ← quotedBreaks fuel c
        pure (first ++ later, c)

/-- The character that a letter behind a backslash stands for. -/
def escaped? : Char → Option Char
  | '0' => some '\x00'
  | 'a' => some '\x07'
  | 'b' => some '\x08'
  | 't' => some '\t'
  | '\t' => some '\t'
  | 'n' => some '\n'
  | 'v' => some '\x0b'
  | 'f' => some '\x0c'
  | 'r' => some '\r'
  | 'e' => some '\x1b'
  | ' ' => some ' '
  | '"' => some '"'
  | '\\' => some '\\'
  | '/' => some '/'
  | 'N' => some '\u0085'
  | '_' => some '\u00a0'
  | 'L' => some '\u2028'
  | 'P' => some '\u2029'
  | _ => none

/-- The number of hexadecimal digits behind a letter that announces a code point. -/
def codeLength? : Char → Option Nat
  | 'x' => some 2
  | 'u' => some 4
  | 'U' => some 8
  | _ => none

/-- The code point that hexadecimal digits of a given number name. -/
def codePoint (length : Nat) (t : Text) : Except DocumentError Nat :=
  match (t.take length).mapM Text.hexValue? with
  | none => .error .malformed
  | some digits =>
    if digits.length < length then .error .malformed
    else
      let code := digits.foldl (fun n d => n * 16 + d) 0
      if 0x10FFFF < code then .error (.noCharacter code) else .ok code

/-- The code points between quotes from a place behind the opening quote on, and the place behind the closing
one. Inside double quotes a backslash escapes, inside single quotes a quote is written twice. -/
def quotedScalar (double : Bool) : Nat → Cursor → Except DocumentError (List Nat × Cursor)
  | 0, _ => .error .malformed
  | fuel + 1, c =>
    let quote := if double then '"' else '\''
    let more (codes : List Nat) (c : Cursor) : Except DocumentError (List Nat × Cursor) := do
      let (behind, c) ← quotedScalar double fuel c
      pure (codes ++ behind, c)
    let moreText (piece : Text) : Cursor → Except DocumentError (List Nat × Cursor) :=
      more (Text.codePoints piece)
    match c.rest with
    | [] => .error .malformed
    | ch :: rest =>
      if ch = quote then
        if !double && rest.head? = some '\'' then moreText ['\''] (c.steps 2) else .ok ([], c.step)
      else if double && ch = '\\' then
        match rest with
        | [] => .error .malformed
        | letter :: digits =>
          match escaped? letter, codeLength? letter with
          | some d, _ => moreText [d] (c.steps 2)
          | none, some length => do
            let code ← codePoint length digits
            more [code] (c.steps (2 + length))
          | none, none =>
            if isBreak letter then do
              let (breaks, c) ← quotedBreaks fuel c.step.lineBreak.2
              moreText breaks c
            else .error .malformed
      else if isGap (some ch) then
        let (spaces, c) := c.run fun ch => ch = ' ' || ch = '\t'
        match c.lineBreak with
        | ([], c) => moreText spaces c
        | (first, c) => do
          let (later, c) ← quotedBreaks fuel c
          moreText (folded first later) c
      else moreText [ch] c.step

/-- Whether a plain scalar ends before a character with another behind it. Inside brackets it ends before
more characters. -/
def endsPlain (inFlow : Bool) (c : Char) (next : Option Char) : Bool :=
  isGap (some c)
    || (c = ':' && (isGap next || (inFlow && next.any fun n => ",[]\x7b\x7d".toList.contains n)))
    || (inFlow && ",?[]\x7b\x7d".toList.contains c)

/-- The characters of a plain scalar up to the next gap or mark. -/
def plainRun (inFlow : Bool) : Text → Text
  | [] => []
  | c :: rest => if endsPlain inFlow c rest.head? then [] else c :: plainRun inFlow rest

/-- The line ends of empty lines inside a plain scalar and the place behind them, or nothing if a marker
between documents follows one of them. -/
def plainBreaks : Nat → Cursor → Option (Text × Cursor)
  | 0, c => some ([], c)
  | fuel + 1, c =>
    let c := c.skip (· = ' ')
    match c.lineBreak with
    | ([], _) => some ([], c)
    | (first, c) =>
      if c.isAtSeparator then none
      else (plainBreaks fuel c).map fun (later, c) => (first ++ later, c)

/-- The gap behind a part of a plain scalar, the place behind it, and whether a line ended in it. No gap
means that the scalar ends. -/
def plainGap (fuel : Nat) (c : Cursor) : Text × Cursor × Bool :=
  let (spaces, c) := c.run (· = ' ')
  match c.lineBreak with
  | ([], c) => (spaces, c, false)
  | (first, c) =>
    if c.isAtSeparator then ([], c, true)
    else
      match plainBreaks fuel c with
      | none => ([], c, true)
      | some (later, c) => (folded first later, c, true)

/-- A plain scalar, where parts of it on later lines must not stand left of a column: its text, the place
behind it, and whether the last gap behind it held a line end. -/
def plainScalar (inFlow : Bool) (indent : Int) : Nat → Cursor → Text × Cursor × Bool
  | 0, c => ([], c, false)
  | fuel + 1, c =>
    if c.isAt '#' then ([], c, false)
    else
      let part := plainRun inFlow c.rest
      if part = [] then ([], c, false)
      else
        let (gap, after, ended) := plainGap fuel (c.steps part.length)
        if gap = [] || after.isAt '#' || (!inFlow && (after.column : Int) < indent) then
          (part, after, ended)
        else
          match plainScalar inFlow indent fuel after with
          | ([], last, _) => (part, last, ended)
          | (t, last, endedLater) => (part ++ gap ++ t, last, endedLater)

/-- What becomes of the line ends behind a block: the last one stays, none stays, or all stay. -/
inductive Chomping where
  | clip
  | strip
  | keep
deriving DecidableEq, Repr

/-- The signs behind the mark of a block: how it ends and how far it is indented. -/
def blockHeader (c : Cursor) : Except DocumentError (Chomping × Option Nat × Cursor) := do
  let chomping? (c : Cursor) : Option Chomping :=
    if c.isAt '+' then some .keep else if c.isAt '-' then some .strip else none
  let increment? (c : Cursor) : Option Nat :=
    c.next?.bind fun d => if '0' ≤ d && d ≤ '9' then some (d.toNat - '0'.toNat) else none
  let (chomping, increment, c) :=
    match chomping? c, increment? c with
    | some k, _ =>
      let c := c.step
      match increment? c with
      | some n => (k, some n, c.step)
      | none => (k, none, c)
    | none, some n =>
      let c := c.step
      match chomping? c with
      | some k => (k, some n, c.step)
      | none => (.clip, some n, c)
    | none, none => (.clip, none, c)
  if increment = some 0 then .error .malformed
  else if isLineEnd c.next? || c.isAt ' ' then .ok (chomping, increment, c)
  else .error .malformed

/-- The place on the line below the signs of a block, where nothing but a comment may follow them. -/
def blockHeaderEnd (c : Cursor) : Except DocumentError Cursor :=
  let c := c.skip (· = ' ')
  let c := if c.isAt '#' then c.skip fun ch => !isBreak ch else c
  if isLineEnd c.next? then .ok c.lineBreak.2 else .error .malformed

/-- The line ends of the empty lines at the beginning of a block, the greatest indentation among them and
the first line with text, and the place behind them. -/
def blockIndentation (greatest : Nat) : Nat → Cursor → Text × Nat × Cursor
  | 0, c => ([], greatest, c)
  | fuel + 1, c =>
    if c.isAt ' ' then blockIndentation (max greatest c.step.column) fuel c.step
    else
      match c.lineBreak with
      | ([], _) => ([], greatest, c)
      | (first, c) =>
        let (later, indent, c) := blockIndentation greatest fuel c
        (first ++ later, indent, c)

/-- The line ends of empty lines inside a block, and the place behind them and the indentation. -/
def blockBreaks (indent : Nat) : Nat → Cursor → Text × Cursor
  | 0, c => ([], c)
  | fuel + 1, c =>
    let c := c.skipSpacesTo indent
    match c.lineBreak with
    | ([], _) => ([], c)
    | (first, c) =>
      let (later, c) := blockBreaks indent fuel c
      (first ++ later, c)

/-- The lines of a block: their text, the last line end, the line ends of the empty lines behind it, and
the place behind them. -/
def blockLines (fold : Bool) (indent : Nat) : Nat → Text → Cursor → Text × Text × Text × Cursor
  | 0, breaks, c => ([], [], breaks, c)
  | fuel + 1, breaks, c =>
    if c.column = indent && c.next?.isSome then
      let startsWithSpace := c.isAt ' ' || c.isAt '\t'
      let (line, c) := c.run fun ch => !isBreak ch
      let (lineEnd, c) := c.lineBreak
      let (later, c) := blockBreaks indent fuel c
      if c.column = indent && c.next?.isSome then
        let joint :=
          if fold && lineEnd = ['\n'] && !startsWithSpace && !(c.isAt ' ' || c.isAt '\t') then
            if later = [] then [' '] else []
          else lineEnd
        let (t, lastEnd, tail, c) := blockLines fold indent fuel later c
        (breaks ++ line ++ joint ++ t, lastEnd, tail, c)
      else (breaks ++ line, lineEnd, later, c)
    else ([], [], breaks, c)

/-- The text of a block behind its mark, inside a collection of an indentation. -/
def blockScalar (fold : Bool) (outer : Int) (c : Cursor) : Except DocumentError (Text × Cursor) := do
  let fuel := c.rest.length + 1
  let (chomping, increment, c) ← blockHeader c
  let c ← blockHeaderEnd c
  let least := (max 1 (outer + 1)).toNat
  let (breaks, indent, c) :=
    match increment with
    | none =>
      let (breaks, greatest, c) := blockIndentation 0 fuel c
      (breaks, max least greatest, c)
    | some n =>
      let indent := least + n - 1
      let (breaks, c) := blockBreaks indent fuel c
      (breaks, indent, c)
  let (t, lineEnd, tail, c) := blockLines fold indent fuel breaks c
  pure
    (match chomping with
      | .strip => t
      | .clip => t ++ lineEnd
      | .keep => t ++ lineEnd ++ tail, c)

end Wording.Plain.Document
