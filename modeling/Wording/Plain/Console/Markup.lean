import Wording.Plain.Console.Emoji
import Wording.Plain.Console.LineBreak

/-!
A plain console for marked-up text: it shows the text and drops the tags. A backslash before a tag makes it text, and
two backslashes stand for one there. Emoji take the place of their names, wherever no tag stands inside the name.
-/

set_option autoImplicit false

namespace Wording.Plain.Console

/-- Whether a character may follow the bracket that opens a tag. -/
def opensTag (c : Char) : Bool := ('a' ≤ c && c ≤ 'z') || c = '#' || c = '/' || c = '@'

/-- A tag at the beginning of a text, its brackets included, and the text behind it. -/
def tagAt? : Text → Option (Text × Text)
  | '[' :: c :: rest =>
    let inside := rest.takeWhile fun c => c ≠ '[' && c ≠ ']'
    match opensTag c, rest.drop inside.length with
    | true, ']' :: behind => some ('[' :: c :: inside ++ [']'], behind)
    | _, _ => none
  | _ => none

/-- The backslashes at the beginning of a text, the tag behind them, and the text behind that. -/
def slashedTagAt? (t : Text) : Option (Nat × Text × Text) :=
  let slashes := t.takeWhile (· = '\\')
  (tagAt? (t.drop slashes.length)).map fun (tag, behind) => (slashes.length, tag, behind)

def slashes (n : Nat) : Text := List.replicate n '\\'

/-- Takes a tag with the backslashes before it and answers it as text. -/
def escapedTag : Tokens.Pattern := fun _ t =>
  (slashedTagAt? t).map fun (n, tag, behind) => ⟨slashes (2 * n + 1) ++ tag, behind⟩

/-- Marked-up text that shows a text as it is, whatever is written behind it: its tags are made text, and a
single backslash at its end is written twice. -/
def escape (t : Text) : Text :=
  let escaped := escapedTag.replace t
  match escaped.reverse with
  | '\\' :: '\\' :: _ => escaped
  | '\\' :: _ => escaped ++ ['\\']
  | _ => escaped

/-- Takes a tag with the backslashes before it and answers what is shown of it. -/
def shownTag : Tokens.Pattern := fun _ t =>
  (slashedTagAt? t).map fun (n, tag, behind) =>
    ⟨slashes (n / 2) ++ (if n % 2 = 1 then tag else []), behind⟩

/-- Takes a backslash before a bracket and answers the bracket. -/
def slashedBracket : Tokens.Pattern := fun _ t =>
  match t with
  | '\\' :: '[' :: behind => some ⟨['['], behind⟩
  | _ => none

/-- Whether a character moves a terminal's cursor or rings its bell; such characters are not printed. -/
def isControl (c : Char) : Bool := [7, 8, 11, 12, 13].contains c.toNat

/-- The text that a plain console shows for a marked-up text. -/
def plain (markup : Text) : Text :=
  let (first, rest) := shownTag.split markup
  let shown (between : Text) : Text := withEmoji (slashedBracket.replace between)
  (shown first ++ rest.flatMap fun (tag, between) => withEmoji tag ++ shown between).filter
    fun c => !isControl c

def consoleWidth : Nat := 2000

/-- What a plain console prints for a marked-up text, with the line feed behind it. -/
def printed (markup : Text) : Text :=
  let lines := (Text.lines (plain markup)).flatMap fun line =>
    (brokenLines consoleWidth true (withoutTabs line)).map (cutToWidth consoleWidth)
  Text.join ['\n'] lines ++ ['\n']

end Wording.Plain.Console
