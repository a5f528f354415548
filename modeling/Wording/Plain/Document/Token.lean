import Wording.Plain.Document.Scalar

/-!
The tokens of a document. Indentation becomes tokens too: a collection begins where its first entry stands
further right than what holds it, and ends where something stands further left. Whether a scalar is a key
shows only at the colon behind it, so the places of possible keys are kept, one for each depth of brackets,
and the key token is put in afterwards. The text is read no further than it takes to be certain of the next
token, so that a fault in it comes to light only when it is reached. Tags and directives are refused.
-/

set_option autoImplicit false

namespace Wording.Plain.Document

/-- A token of a document. Halves are a scalar of code points that are not all characters. -/
inductive Token where
  | documentStart
  | documentEnd
  | blockSequenceStart
  | blockMappingStart
  | blockEnd
  | flowSequenceStart
  | flowSequenceEnd
  | flowMappingStart
  | flowMappingEnd
  | blockEntry
  | flowEntry
  | key
  | value
  | anchor (name : Text)
  | alias (name : Text)
  | scalar (text : Text) (plain : Bool)
  | halves (codes : List Nat)
deriving DecidableEq, Repr

/-- A place where a key may have begun: how many tokens stand before it in the document, whether it must
turn out to be a key, and where it stands. -/
structure KeyPlace where
  tokensBefore : Nat
  required : Bool
  index : Nat
  line : Nat
  column : Nat
deriving DecidableEq, Repr

/-- What is known while tokens are read. -/
structure Reading where
  cursor : Cursor
  /-- The tokens that are read and not yet taken. -/
  tokens : List Token
  /-- How many tokens are taken. -/
  taken : Nat
  /-- Whether the end of the text is reached. -/
  finished : Bool
  /-- The depth of brackets, below zero behind one that closes none. -/
  depth : Int
  /-- The column of the innermost block collection, or minus one. -/
  indent : Int
  /-- The columns of the collections around it. -/
  outerIndents : List Int
  /-- Whether a key may begin here. -/
  keyAllowed : Bool
  /-- The places of possible keys by the depth of brackets. -/
  keyPlaces : List (Int × KeyPlace)
deriving Repr

namespace Reading

def start (t : Text) : Reading := ⟨Cursor.start t, [], 0, false, 0, -1, [], true, []⟩

def push (r : Reading) (t : Token) : Reading := { r with tokens := r.tokens ++ [t] }

def moveTo (r : Reading) (c : Cursor) : Reading := { r with cursor := c }

/-- Skips spaces, comments and line ends up to the next token. Outside brackets a key may begin on a new
line. -/
def skipToToken (r : Reading) : Nat → Reading
  | 0 => r
  | fuel + 1 =>
    let c := r.cursor.skip (· = ' ')
    let c := if c.isAt '#' then c.skip fun ch => !isBreak ch else c
    match c.lineBreak with
    | ([], c) => r.moveTo c
    | (_, c) =>
      skipToToken { r with cursor := c, keyAllowed := r.keyAllowed || r.depth = 0 } fuel

/-- Forgets the possible keys of earlier lines and those too long ago. -/
def dropStaleKeys (r : Reading) : Except DocumentError Reading :=
  let isStale (k : KeyPlace) : Bool :=
    k.line ≠ r.cursor.line || k.index + 1024 < r.cursor.index
  if r.keyPlaces.any fun (_, k) => isStale k && k.required then .error .malformed
  else .ok { r with keyPlaces := r.keyPlaces.filter fun (_, k) => !isStale k }

/-- Forgets the possible key at this depth, which must not be a required one. -/
def dropKey (r : Reading) : Except DocumentError Reading :=
  if r.keyPlaces.any fun (d, k) => d = r.depth && k.required then .error .malformed
  else .ok { r with keyPlaces := r.keyPlaces.filter fun (d, _) => d ≠ r.depth }

/-- Remembers that a key may begin here, if one may. -/
def saveKey (r : Reading) : Except DocumentError Reading := do
  if r.keyAllowed then
    let r ← r.dropKey
    let c := r.cursor
    let place : KeyPlace :=
      ⟨r.taken + r.tokens.length, r.depth = 0 && r.indent = c.column, c.index, c.line, c.column⟩
    pure { r with keyPlaces := (r.depth, place) :: r.keyPlaces }
  else pure r

/-- Ends the block collections that stand right of a column. -/
def unwind (column : Int) : List Int → Reading → Reading
  | [], r => r
  | outer :: rest, r =>
    if r.depth = 0 && column < r.indent then
      unwind column rest ({ r with indent := outer, outerIndents := rest }.push .blockEnd)
    else r

/-- Ends the block collections that stand right of a column. -/
def unwindTo (r : Reading) (column : Int) : Reading := unwind column r.outerIndents r

/-- Puts a token behind a number of tokens of the document. -/
def insert (r : Reading) (tokensBefore : Nat) (t : Token) : Reading :=
  let kept := tokensBefore - r.taken
  { r with tokens := r.tokens.take kept ++ t :: r.tokens.drop kept }

/-- Begins a block collection at a column right of the innermost one: its first token goes behind a number
of tokens of the document. -/
def indentTo (r : Reading) (column : Nat) (tokensBefore : Nat) (first : Token) : Reading :=
  if r.indent < column then
    { r.insert tokensBefore first with
      indent := column
      outerIndents := r.indent :: r.outerIndents }
  else r

def documentMarker (r : Reading) (t : Token) : Except DocumentError Reading := do
  let r ← (r.unwindTo (-1)).dropKey
  pure ({ r with keyAllowed := false, cursor := r.cursor.steps 3 }.push t)

def openFlow (r : Reading) (t : Token) : Except DocumentError Reading := do
  let r ← r.saveKey
  pure ({ r with depth := r.depth + 1, keyAllowed := true, cursor := r.cursor.step }.push t)

def closeFlow (r : Reading) (t : Token) : Except DocumentError Reading := do
  let r ← r.dropKey
  pure ({ r with depth := r.depth - 1, keyAllowed := false, cursor := r.cursor.step }.push t)

def flowEntry (r : Reading) : Except DocumentError Reading := do
  let r ← { r with keyAllowed := true }.dropKey
  pure ((r.moveTo r.cursor.step).push .flowEntry)

/-- A mark that begins an entry or a key: outside brackets it needs a place where a key may begin, and may
begin a collection. -/
def blockMark (r : Reading) (first : Token) : Except DocumentError Reading :=
  if r.depth = 0 then
    if r.keyAllowed then .ok (r.indentTo r.cursor.column (r.taken + r.tokens.length) first)
    else .error .malformed
  else .ok r

def blockEntry (r : Reading) : Except DocumentError Reading := do
  let r ← r.blockMark .blockSequenceStart
  let r ← { r with keyAllowed := true }.dropKey
  pure ((r.moveTo r.cursor.step).push .blockEntry)

def explicitKey (r : Reading) : Except DocumentError Reading := do
  let r ← r.blockMark .blockMappingStart
  let r ← { r with keyAllowed := r.depth = 0 }.dropKey
  pure ((r.moveTo r.cursor.step).push .key)

/-- The colon of a value. If a key may have begun before it, it has, and its token is put there. -/
def valueMark (r : Reading) : Except DocumentError Reading := do
  match (r.keyPlaces.find? fun (d, _) => d = r.depth).map (·.2) with
  | some k =>
    let r :=
      { r.insert k.tokensBefore .key with
        keyPlaces := r.keyPlaces.filter fun (d, _) => d ≠ r.depth }
    let r := if r.depth = 0 then r.indentTo k.column k.tokensBefore .blockMappingStart else r
    pure ({ r with keyAllowed := false, cursor := r.cursor.step }.push .value)
  | none =>
    let r ← r.blockMark .blockMappingStart
    let r ← { r with keyAllowed := r.depth = 0 }.dropKey
    pure ((r.moveTo r.cursor.step).push .value)

/-- Whether a character may stand in the name of an anchor. -/
def isAnchorChar (c : Char) : Bool :=
  ('0' ≤ c && c ≤ '9') || ('A' ≤ c && c ≤ 'Z') || ('a' ≤ c && c ≤ 'z') || c = '-' || c = '_'

def anchorMark (r : Reading) (token : Text → Token) : Except DocumentError Reading := do
  let r ← r.saveKey
  let (name, c) := r.cursor.step.run isAnchorChar
  if name = [] then .error .malformed
  else if isGap c.next? || c.next?.any fun ch => "?:,]\x7d%@`".toList.contains ch then
    pure ({ r with keyAllowed := false, cursor := c }.push (token name))
  else .error .malformed

def blockText (r : Reading) (fold : Bool) : Except DocumentError Reading := do
  let r ← { r with keyAllowed := true }.dropKey
  let (t, c) ← blockScalar fold r.indent r.cursor.step
  pure ((r.moveTo c).push (.scalar t false))

def quotedText (r : Reading) (double : Bool) : Except DocumentError Reading := do
  let r ← r.saveKey
  let (codes, c) ← quotedScalar double (r.cursor.rest.length + 1) r.cursor.step
  let token :=
    if codes.any Text.isHalf then Token.halves codes else .scalar (Text.ofCodePoints codes) false
  pure ({ r with keyAllowed := false, cursor := c }.push token)

def plainText (r : Reading) : Except DocumentError Reading := do
  let r ← r.saveKey
  let (t, c, ended) := plainScalar (r.depth ≠ 0) (r.indent + 1) (r.cursor.rest.length + 1) r.cursor
  pure ({ r with keyAllowed := ended, cursor := c }.push (.scalar t true))

/-- Whether a plain scalar may begin with a character that another follows. -/
def mayBeginPlain (inFlow : Bool) (ch : Char) (next : Option Char) : Bool :=
  !(isGap (some ch) || "-?:,[]\x7b\x7d#&*!|>'\"%@`".toList.contains ch)
    || (!isGap next && (ch = '-' || (!inFlow && (ch = '?' || ch = ':'))))

/-- Reads the token that begins with a character. -/
def token (r : Reading) (ch : Char) : Except DocumentError Reading :=
  let c := r.cursor
  let inFlow : Bool := r.depth ≠ 0
  let next := c.at? 1
  if ch = '%' && c.column = 0 then .error .malformed
  else if c.column = 0 && c.isAtMarker '-' then r.documentMarker .documentStart
  else if c.column = 0 && c.isAtMarker '.' then r.documentMarker .documentEnd
  else if ch = '[' then r.openFlow .flowSequenceStart
  else if ch = '\x7b' then r.openFlow .flowMappingStart
  else if ch = ']' then r.closeFlow .flowSequenceEnd
  else if ch = '\x7d' then r.closeFlow .flowMappingEnd
  else if ch = ',' then r.flowEntry
  else if ch = '-' && isGap next then r.blockEntry
  else if ch = '?' && (inFlow || isGap next) then r.explicitKey
  else if ch = ':' && (inFlow || isGap next) then r.valueMark
  else if ch = '*' then r.anchorMark .alias
  else if ch = '&' then r.anchorMark .anchor
  else if ch = '|' && !inFlow then r.blockText false
  else if ch = '>' && !inFlow then r.blockText true
  else if ch = '\'' then r.quotedText false
  else if ch = '"' then r.quotedText true
  else if mayBeginPlain inFlow ch next then r.plainText
  else .error .malformed

/-- Reads on to the next token, or to the end of the text. -/
def fetch (r : Reading) : Except DocumentError Reading := do
  let r ← (r.skipToToken (r.cursor.rest.length + 1)).dropStaleKeys
  let r := r.unwindTo r.cursor.column
  match r.cursor.next? with
  | none =>
    let r ← (r.unwindTo (-1)).dropKey
    pure { r with keyAllowed := false, keyPlaces := [], finished := true }
  | some ch => r.token ch

/-- Whether a key may have begun at the first token that is not taken. -/
def mayBeginWithKey (r : Reading) : Bool := r.keyPlaces.any fun (_, k) => k.tokensBefore = r.taken

/-- Reads on until the next token is certain, in at most some steps. -/
def readyWithin : Nat → Reading → Except DocumentError Reading
  | 0, _ => .error .malformed
  | steps + 1, r =>
    if r.finished then .ok r
    else if r.tokens = [] then do readyWithin steps (← r.fetch)
    else do
      let r ← r.dropStaleKeys
      if r.mayBeginWithKey then readyWithin steps (← r.fetch) else pure r

/-- Reads on until the next token is certain. Each step takes a character or ends the text. -/
def ready (r : Reading) : Except DocumentError Reading := readyWithin (r.cursor.rest.length + 3) r

def drop (r : Reading) : Reading := { r with tokens := r.tokens.tail, taken := r.taken + 1 }

/-- The reading of a document, which holds no other characters than a document may. A byte order mark may
stand before it. -/
def ofText (t : Text) : Except DocumentError Reading :=
  if t.all isAllowed then
    let r := start t
    .ok (r.moveTo (if r.cursor.isAt '\uFEFF' then r.cursor.step else r.cursor))
  else .error .malformed

end Reading

end Wording.Plain.Document
