import Wording.Command.Request
import Wording.Console.Printout

/-!
What the program leaves to packages: the reading of settings documents, the printing of marked-up text and of tables,
the printing of a document as it is, the understanding of a command line, and the wording of a complaint about its
settings. Nothing of this is settled here, so that whatever is said of a run is said of every platform; where something
rests on what a package documents, it is a premise with a name.
-/

set_option autoImplicit false

namespace Wording.Command

/-- Where a run prints: on its output, or beside it, where it tells about itself. -/
inductive Channel where
  | output
  | messages
deriving DecidableEq, Repr

/-- A complaint that ends a run in good order: about the settings that a configuration gives, or about an option that
makes no settings of them. -/
inductive Complaint where
  | settings (reason : Text)
  | option (reason : Text)
deriving DecidableEq, Repr

namespace Complaint

/-- The exit code of a run that ends with a complaint. -/
def exitCode : Complaint → Nat
  | .settings _ => 1
  | .option _ => 2

end Complaint

/-- What a command line comes to: a run that is over, as it prints its help or is not understood, or a command with the
settings file that is named for it, if one is. -/
inductive Call where
  | over (ending : Except Failure Nat) (output messages : List UInt8)
  | scan (named : Option Text) (request : ScanRequest)
  | terms (named : Option Text)

/-- A platform. -/
structure Platform where
  reader : DocumentReader
  escape : Text → Text
  print : Channel → Console.Printout → Except Failure (List UInt8)
  echo : Text → Except Failure (List UInt8)
  complaintText : Complaint → List UInt8
  call : Disk → Environment → List Text → Call

end Wording.Command
