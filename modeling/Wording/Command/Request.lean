import Wording.Configuration
import Wording.Export.Kind
import Wording.Scan.Selection

/-!
What the scan command is asked for, once its command line is understood, and the scanner that a request makes of a
configuration. A request changes settings by a copy that is checked like every other.
-/

set_option autoImplicit false

namespace Wording.Command

/-- How the result of a scan is shown: as tables, or as a document. -/
inductive Format where
  | table
  | document (kind : Export.Kind)
deriving DecidableEq, Repr

/-- What the scan command is asked for. An empty output is the standard output. -/
structure ScanRequest where
  paths : List Text
  caseSensitive : Option Bool := none
  timePerFix : Option Int := none
  skipsIdentifiers : Bool := false
  skipsStrings : Bool := false
  skipsComments : Bool := false
  excluded : List Text := []
  selection : Selection := {}
  format : Format := .table
  output : Text := []
  details : Bool := false
deriving DecidableEq, Repr

namespace ScanRequest

/-- What a request changes in settings. Kinds of tokens are only ever turned off. -/
def change (r : ScanRequest) : Settings.Change where
  timePerFix := r.timePerFix
  includeIdentifiers := if r.skipsIdentifiers then some false else none
  includeStrings := if r.skipsStrings then some false else none
  includeComments := if r.skipsComments then some false else none
  caseSensitive := r.caseSensitive

/-- The scanner for a request under a configuration. -/
def scanner (r : ScanRequest) (c : Configuration) : Except SettingsError Scanner := do
  pure (.new (← c.settings.replace r.change) .builtin c.sizeLimit r.excluded)

end ScanRequest

end Wording.Command
