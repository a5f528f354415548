import Wording.Export.Json
import Wording.Export.Json.Token

/-!
A reader of JSON documents. It takes one token after the other and keeps the arrays and objects that are open around
it. A document is one value with nothing before it and nothing behind it.
-/

set_option autoImplicit false

namespace Wording.Export.Json

/-- An array or object that is open, with what it has so far; in an object, with the key of the value to come. -/
inductive Frame where
  | array (items : List Json)
  | object (fields : List (Text × Json)) (key : Text)

/-- What the reader is waiting for, and what is open around it: a value, a key, the colon behind a key, or what follows
a value. An array or object with nothing in it yet can also be closed. -/
inductive ValueReading where
  | awaiting (around : List Frame)
  | awaitingKey (fields : List (Text × Json)) (around : List Frame)
  | behindKey (fields : List (Text × Json)) (key : Text) (around : List Frame)
  | behind (v : Json) (around : List Frame)

def ValueReading.step : ValueReading → Token → Option ValueReading
  | .awaiting (.array [] :: around), .closeArray => some (.behind (.array []) around)
  | .awaiting around, .string t => some (.behind (.string t) around)
  | .awaiting around, .number t => some (.behind (.number t) around)
  | .awaiting around, .openArray => some (.awaiting (.array [] :: around))
  | .awaiting around, .openObject => some (.awaitingKey [] around)
  | .awaitingKey [] around, .closeObject => some (.behind (.object []) around)
  | .awaitingKey fields around, .string key => some (.behindKey fields key around)
  | .behindKey fields key around, .colon => some (.awaiting (.object fields key :: around))
  | .behind v (.array items :: around), .comma => some (.awaiting (.array (items ++ [v]) :: around))
  | .behind v (.array items :: around), .closeArray => some (.behind (.array (items ++ [v])) around)
  | .behind v (.object fields key :: around), .comma => some (.awaitingKey (fields ++ [(key, v)]) around)
  | .behind v (.object fields key :: around), .closeObject =>
    some (.behind (.object (fields ++ [(key, v)])) around)
  | _, _ => none

/-- The value of some tokens, unless they are not those of one value. -/
def ofTokens? (tokens : List Token) : Option Json :=
  match tokens.foldlM ValueReading.step (.awaiting []) with
  | some (.behind v []) => some v
  | _ => none

/-- The value of a document, unless the text is none. -/
def read? (t : Text) : Option Json := do ofTokens? (← tokens? t)

end Wording.Export.Json
