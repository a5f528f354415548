import Wording.Value.Basic

/-!
What can be wrong with settings, from a single term to a whole document, and the wording of each fault. Most wordings
show the value at fault. If that value cannot be written, there is no such fault: what stands in the way of its wording
is raised in its place, and is no refusal of the settings.
-/

set_option autoImplicit false

namespace Wording

/-- Where a value is written while settings are made: where a flag is refused, where seconds are, where an entry of the
list of terms is read, where its suggestions are made texts, and where a closed choice is made. -/
inductive Site where
  | flag
  | seconds
  | entry
  | suggestion
  | choice
deriving DecidableEq, Repr

/-- The levels that are left at each place for a value that is written there. -/
abbrev Rooms := Site → Nat

/-- A value that is none of the words of a closed choice, in the form in which it is shown, if it can be shown. -/
structure UnknownChoice where
  shown : Except Unwritable Text
  choice : String
deriving Repr

def UnknownChoice.message (u : UnknownChoice) : Text :=
  match u.shown with
  | .ok t => t ++ " is not a valid ".toList ++ u.choice.toList
  | .error why => why.message

/-- Why settings are refused. That something in them cannot be written is no refusal: it stands in the way of saying
why they are refused, or of a value that is meant as a text. -/
inductive SettingsError where
  | blankTerm (id : Text)
  | duplicateId (id : Text)
  | timeNotInteger (shown : Text)
  | timeNotPositive (seconds : Text)
  | notMapping
  | flagNotBoolean (name : String) (shown : Text)
  | termsNotList
  | badEntry (shown : Text)
  | missingTerm (shown : Text)
  | termNotText (shown : Text)
  | suggestionsNotList (shown : Text)
  | unknownChoice (u : UnknownChoice)
  | variableNotInteger (name : String) (value : Text)
  | variableNotBoolean (name : String) (value : Text)
  | unwritable (why : Unwritable)
deriving Repr

namespace SettingsError

def message : SettingsError → Text
  | .blankTerm id => "Biased term ".toList ++ Text.shown id ++ " has empty term text".toList
  | .duplicateId id => "Duplicate biased term id: ".toList ++ id
  | .timeNotInteger shown => "time_per_fix must be an integer, got ".toList ++ shown
  | .timeNotPositive seconds => "time_per_fix must be positive, got ".toList ++ seconds
  | .notMapping => "Settings YAML must be a mapping".toList
  | .flagNotBoolean name shown => name.toList ++ " must be true or false, got ".toList ++ shown
  | .termsNotList => "terms must be a list".toList
  | .badEntry shown => "Invalid term entry: ".toList ++ shown
  | .missingTerm shown => "Term entry is missing 'term': ".toList ++ shown
  | .termNotText shown => "Term must be a string, got ".toList ++ shown
  | .suggestionsNotList shown => "suggestions must be a string or a list, got ".toList ++ shown
  | .unknownChoice u => u.message
  | .variableNotInteger name value =>
    name.toList ++ " must be an integer, got ".toList ++ Text.shown value
  | .variableNotBoolean name value =>
    name.toList ++ " must be a boolean, got ".toList ++ Text.shown value
  | .unwritable why => why.message

/-- The reason that a shown value makes, or what stands in the way of showing it. -/
def showing (shown : Except Unwritable Text) (reason : Text → SettingsError) : SettingsError :=
  match shown with
  | .ok t => reason t
  | .error why => .unwritable why

/-- The fault that a value outside a choice is. A refusal is made even of an integer that is too long to be shown, but
not of a value that is nested too deeply. -/
def ofUnknownChoice (u : UnknownChoice) : SettingsError :=
  match u.shown with
  | .error .tooDeep => .unwritable .tooDeep
  | _ => .unknownChoice u

end SettingsError

end Wording
