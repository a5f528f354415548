import Wording.Number.Quantity
import Wording.Text.CodePoints
import Wording.Text.Integer
import Wording.Value.Moment

/-!
The values that a settings document holds, and the form in which messages show them. A collection that holds itself has
a label, and stands inside itself by this label; to look inside it is to put the collection in the places of its label.
What is shown of it inside itself is an ellipsis.

Not every value can be shown. An integer may have too many digits to be written, and values may stand inside each other
more deeply than there is room for: each value that is being shown takes up one level of a room, and the room is as
large as whoever asks for the form has left it.
-/

set_option autoImplicit false

namespace Wording

/-- A value of a settings document. Halves are a text of code points that are not all characters. A mapping keeps the
order of its entries, and a set the order in which its items are gone through. A labelled value may hold itself, and
then holds the same label. -/
inductive Value where
  | null
  | bool (b : Bool)
  | int (n : Int)
  | float (x : Number.Binary)
  | text (t : Text)
  | halves (codes : List Nat)
  | bytes (bytes : List UInt8)
  | date (d : Date)
  | moment (m : Moment)
  | list (items : List Value)
  | tuple (items : List Value)
  | set (items : List Value)
  | map (entries : List (Value × Value))
  | labelled (label : Nat) (value : Value)
  | same (label : Nat)
deriving Repr

namespace Value

/-- What is shown of a collection inside itself. -/
def ellipsis : Value → Text
  | .map _ => "\x7b...\x7d".toList
  | .tuple _ => "(...)".toList
  | .set _ => "set(...)".toList
  | _ => "[...]".toList

/-- The shown items of a tuple between brackets; a single item keeps a comma behind it. -/
def bracketed : List Text → Text
  | [item] => '(' :: item ++ [',', ')']
  | items => '(' :: Text.listed items ++ [')']

mutual

/-- The form in which messages show a value inside collections with labels, each with its ellipsis, in a room of so
many levels. A set takes up two levels, since its items are gone through as a list. -/
def shownIn (around : List (Nat × Text)) : Nat → Value → Except Unwritable Text
  | 0, _ => .error .tooDeep
  | _ + 1, .null => .ok "None".toList
  | _ + 1, .bool b => .ok (if b then "True".toList else "False".toList)
  | _ + 1, .int n => Text.writeInt n
  | _ + 1, .float x => .ok x.shortest
  | _ + 1, .text t => .ok (Text.shown t)
  | _ + 1, .halves codes => .ok (Text.shownCodePoints codes)
  | _ + 1, .bytes bs => .ok (Text.shownBytes bs)
  | _ + 1, .date d => .ok d.shown
  | room + 1, .moment m => if m.levels ≤ room + 1 then .ok m.shown else .error .tooDeep
  | room + 1, .list items => (shownItems around room items).map fun shown => '[' :: Text.listed shown ++ [']']
  | room + 1, .tuple items => (shownItems around room items).map bracketed
  | _ + 1, .set [] => .ok "set()".toList
  | room + 1, .set items =>
    (shownItems around (room - 1) items).map fun shown => '\x7b' :: Text.listed shown ++ ['\x7d']
  | room + 1, .map entries =>
    (shownEntries around room entries).map fun shown => '\x7b' :: Text.listed shown ++ ['\x7d']
  | room + 1, .labelled label v =>
    match around.find? fun a => a.1 = label with
    | some (_, dots) => .ok dots
    | none => shownIn ((label, ellipsis v) :: around) (room + 1) v
  | _ + 1, .same label => .ok (((around.find? fun a => a.1 = label).map (·.2)).getD "[...]".toList)

/-- The shown items of a collection, or why the first one that cannot be shown cannot. -/
def shownItems (around : List (Nat × Text)) (room : Nat) : List Value → Except Unwritable (List Text)
  | [] => .ok []
  | v :: rest => do
    let item ← shownIn around room v
    pure (item :: (← shownItems around room rest))

/-- The shown entries of a mapping, each key before its value. -/
def shownEntries (around : List (Nat × Text)) (room : Nat) :
    List (Value × Value) → Except Unwritable (List Text)
  | [] => .ok []
  | (k, v) :: rest => do
    let key ← shownIn around room k
    let value ← shownIn around room v
    pure ((key ++ [':', ' '] ++ value) :: (← shownEntries around room rest))

end

/-- The form in which messages show a value, in a room of so many levels. -/
def shown (room : Nat) (v : Value) : Except Unwritable Text := shownIn [] room v

mutual

/-- Puts a value in the places of a label. -/
def replaceLabel (label : Nat) (w : Value) : Value → Value
  | .list items => .list (replaceInItems label w items)
  | .tuple items => .tuple (replaceInItems label w items)
  | .set items => .set (replaceInItems label w items)
  | .map entries => .map (replaceInEntries label w entries)
  | .labelled inner v => if inner = label then .labelled inner v else .labelled inner (replaceLabel label w v)
  | .same inner => if inner = label then w else .same inner
  | v => v

/-- Puts a value in the places of a label in items. -/
def replaceInItems (label : Nat) (w : Value) : List Value → List Value
  | [] => []
  | v :: rest => replaceLabel label w v :: replaceInItems label w rest

/-- Puts a value in the places of a label in entries. -/
def replaceInEntries (label : Nat) (w : Value) : List (Value × Value) → List (Value × Value)
  | [] => []
  | (k, v) :: rest =>
    (replaceLabel label w k, replaceLabel label w v) :: replaceInEntries label w rest

end

/-- What is inside a label: the collection with itself in the places of the label. -/
def opened : Value → Value
  | .labelled label v => replaceLabel label (.labelled label v) v
  | v => v

def text? : Value → Option Text
  | .text t => some t
  | .halves codes => some (Text.ofCodePoints codes)
  | _ => none

/-- A value as a text: a text is itself, dates and times of day have a text of their own, and all else takes its shown
form. -/
def asText (room : Nat) : Value → Except Unwritable Text
  | .text t => .ok t
  | .halves codes => .ok (Text.ofCodePoints codes)
  | .date d => .ok d.text
  | .moment m => .ok m.text
  | v => v.shown room

/-- Whether a value counts as a yes: nothing, no, zero and all that is empty count as a no. -/
def isTruthy : Value → Bool
  | .null => false
  | .bool b => b
  | .int n => n ≠ 0
  | .float (.finite _ significand _) => significand ≠ 0
  | .float _ => true
  | .text t => t ≠ []
  | .halves codes => codes ≠ []
  | .bytes bs => !bs.isEmpty
  | .date _ => true
  | .moment _ => true
  | .list items => !items.isEmpty
  | .tuple items => !items.isEmpty
  | .set items => !items.isEmpty
  | .map entries => !entries.isEmpty
  | .labelled _ v => v.isTruthy
  | .same _ => true

def isName (name : String) : Value → Bool
  | .text t => t = name.toList
  | _ => false

/-- The value of a text key in the entries of a mapping. -/
def lookup (entries : List (Value × Value)) (name : String) : Option Value :=
  (entries.find? fun entry => isName name entry.1).map (·.2)

end Value

end Wording
