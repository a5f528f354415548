import Wording.Command.Platform
import Wording.Console.ScanText

/-!
How a run of the program ends, and what has come out of it by then: what is printed before a run fails stays printed.
Only a refusal of settings ends a run with a complaint; whatever else goes wrong is raised through it.
-/

set_option autoImplicit false

namespace Wording.Command

/-- What is raised through a run. -/
inductive Fault where
  | configuration (fault : ConfigurationError)
  | file (fault : FileError)
  | report (fault : ExportError)
  | package (failure : Failure)

def Fault.message : Fault → Text
  | .configuration fault => fault.message
  | .file fault => fault.message
  | .report fault => fault.message
  | .package failure => failure.message

/-- The end of a run. -/
inductive Ending where
  | exit (code : Nat)
  | raised (fault : Fault)

/-- A document and the path that it is written to. -/
structure Document where
  path : Text
  bytes : List UInt8
deriving DecidableEq, Repr

/-- The end of a run, what it has printed, and the document that it has written. -/
structure Outcome where
  ending : Ending
  output : List UInt8 := []
  messages : List UInt8 := []
  document : Option Document := none

/-- What stops a command before anything comes out of it. -/
inductive Stop where
  | complaint (c : Complaint)
  | raise (fault : Fault)

namespace Stop

/-- What a fault of a configuration comes to: a complaint, if the settings are refused. -/
def ofConfigurationError : ConfigurationError → Stop
  | .refused (.unwritable why) => .raise (.configuration (.refused (.unwritable why)))
  | .refused reason => .complaint (.settings reason.message)
  | fault => .raise (.configuration fault)

/-- What a fault of the settings that options make comes to. -/
def ofOptionError : SettingsError → Stop
  | .unwritable why => .raise (.report (.unwritable why))
  | reason => .complaint (.option reason.message)

end Stop

/-- What has been printed, and what has stopped the printing, if anything has. -/
structure Printing where
  bytes : List UInt8
  fault : Option Fault

/-- The end of a run that has nothing more to do behind some printing but to end with a code. -/
def Printing.ending (printing : Printing) (code : Nat) : Ending :=
  match printing.fault with
  | none => .exit code
  | some fault => .raised fault

namespace Platform

variable (p : Platform)

/-- Prints one thing, if it can be made. -/
def printed (channel : Channel) (making : Console.Making) : Except Fault (List UInt8) := do
  (p.print channel (← making.mapError .report)).mapError .package

/-- Prints one thing after the other, up to the first that cannot be made or printed. -/
def printAll (channel : Channel) : List Console.Making → Printing
  | [] => ⟨[], none⟩
  | making :: rest =>
    match p.printed channel making with
    | .ok bytes =>
      let behind := printAll channel rest
      ⟨bytes ++ behind.bytes, behind.fault⟩
    | .error fault => ⟨[], some fault⟩

def load (disk : Disk) (e : Environment) (named : Option Text) : Except Stop Configuration :=
  (Configuration.load p.reader disk e named).mapError .ofConfigurationError

/-- The end of a command: a complaint is told. -/
def settle : Except Stop Outcome → Outcome
  | .ok o => o
  | .error (.complaint c) => { ending := .exit c.exitCode, messages := p.complaintText c }
  | .error (.raise fault) => { ending := .raised fault }

end Platform

end Wording.Command
