import Wording.Text.Basic
import Wording.Text.Blank

/-!
The terms that sources are scanned for: each has a name of its own, a text with something to look for,
the kind of bias that it stands for, how urgent its replacement is, and what to write instead.
-/

set_option autoImplicit false

namespace Wording

/-- The kind of bias that a term stands for. -/
inductive Category where
  | gender
  | race
  | hierarchy
  | age
  | other
deriving DecidableEq, Repr

/-- How urgently a term should be replaced. -/
inductive Severity where
  | low
  | medium
  | high
deriving DecidableEq, Repr

def Category.text : Category → Text
  | .gender => "gender".toList
  | .race => "race".toList
  | .hierarchy => "hierarchy".toList
  | .age => "age".toList
  | .other => "other".toList

def Category.ofText? (t : Text) : Option Category :=
  [Category.gender, .race, .hierarchy, .age, .other].find? fun c => c.text = t

def Severity.text : Severity → Text
  | .low => "low".toList
  | .medium => "medium".toList
  | .high => "high".toList

def Severity.ofText? (t : Text) : Option Severity :=
  [Severity.low, .medium, .high].find? fun s => s.text = t

/-- A term to look for; its text is not blank. -/
structure Term where
  id : Text
  text : Text
  category : Category
  severity : Severity
  suggestions : List Text
  notBlank : Text.isAllBlank text = false
deriving DecidableEq, Repr

end Wording
