import Wording.Calendar.Instant
import Wording.Text.Integer

/-!
Why a report has no document: a time of it has no date, a share of it is too large, or an integer of it has too many
digits to be written.
-/

set_option autoImplicit false

namespace Wording

/-- Why a report has no document. -/
inductive ExportError where
  | time (fault : TimeError)
  | number (fault : Number.RangeError)
  | unwritable (why : Unwritable)
deriving DecidableEq, Repr

def ExportError.message : ExportError → Text
  | .time fault => fault.message
  | .number fault => fault.message
  | .unwritable why => why.message

/-- The text of an integer of a report. -/
def integerText (n : Int) : Except ExportError Text := (Text.writeInt n).mapError .unwritable

end Wording
