import Wording.Term
import Wording.Settings.Error

/-!
Settings of a scan: the terms, the seconds that one fix takes, which kinds of tokens count, and whether
letter case matters. Settings are only ever built by checking, so that the ids of their terms differ and a
fix takes some time.
-/

set_option autoImplicit false

namespace Wording

/-- A term with the given fields, unless its text is blank. -/
def Term.make (id text : Text) (category : Category) (severity : Severity)
    (suggestions : List Text) : Except SettingsError Term :=
  if h : Text.isAllBlank text = false then .ok ⟨id, text, category, severity, suggestions, h⟩
  else .error (.blankTerm id)

def Category.ofValue (room : Rooms) (v : Value) : Except UnknownChoice Category :=
  match v with
  | .text t => (Category.ofText? t).elim (.error ⟨v.shown (room .choice), "Category"⟩) .ok
  | _ => .error ⟨v.shown (room .choice), "Category"⟩

def Severity.ofValue (room : Rooms) (v : Value) : Except UnknownChoice Severity :=
  match v with
  | .text t => (Severity.ofText? t).elim (.error ⟨v.shown (room .choice), "Severity"⟩) .ok
  | _ => .error ⟨v.shown (room .choice), "Severity"⟩

/-- The settings of a scan. -/
structure Settings where
  terms : List Term
  timePerFix : Int
  includeIdentifiers : Bool
  includeStrings : Bool
  includeComments : Bool
  caseSensitive : Bool
  positive : 0 < timePerFix
  distinct : (terms.map (·.id)).Nodup
deriving DecidableEq, Repr

namespace Settings

/-- The first id that occurred before. -/
def repeatedId? (seen : List Text) : List Term → Option Text
  | [] => none
  | t :: rest => if seen.contains t.id then some t.id else repeatedId? (t.id :: seen) rest

/-- Settings with the given fields, unless the time is not positive or two terms share an id; of both
faults the first is reported. -/
def make (terms : List Term) (timePerFix : Int) (identifiers strings comments sensitive : Bool) :
    Except SettingsError Settings :=
  if positive : 0 < timePerFix then
    if distinct : (terms.map (·.id)).Nodup then
      .ok ⟨terms, timePerFix, identifiers, strings, comments, sensitive, positive, distinct⟩
    else .error (.duplicateId ((repeatedId? [] terms).getD []))
  else .error (.showing (Text.writeInt timePerFix) .timeNotPositive)

/-- The fields that a copy of settings gets anew. -/
structure Change where
  terms : Option (List Term) := none
  timePerFix : Option Int := none
  includeIdentifiers : Option Bool := none
  includeStrings : Option Bool := none
  includeComments : Option Bool := none
  caseSensitive : Option Bool := none

/-- A copy with some fields changed. -/
def replace (s : Settings) (c : Change) : Except SettingsError Settings :=
  make (c.terms.getD s.terms) (c.timePerFix.getD s.timePerFix)
    (c.includeIdentifiers.getD s.includeIdentifiers) (c.includeStrings.getD s.includeStrings)
    (c.includeComments.getD s.includeComments) (c.caseSensitive.getD s.caseSensitive)

/-- The term with an id. -/
def term? (s : Settings) (id : Text) : Option Term := s.terms.find? fun t => t.id = id

/-- A value as the seconds that one fix takes; truth values are no numbers. -/
def secondsOfValue (room : Rooms) : Value → Except SettingsError Int
  | .int n => .ok n
  | v => .error (.showing (v.shown (room .seconds)) .timeNotInteger)

end Settings

end Wording
