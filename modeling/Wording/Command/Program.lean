import Wording.Command.Scan
import Wording.Console.TermsText

/-!
The program: what its command line calls for, carried out to the end.
-/

set_option autoImplicit false

namespace Wording.Command

def version : Text := "0.1.0".toList

def showTerms (p : Platform) (c : Configuration) : Outcome :=
  let printing := p.printAll .output (Console.terms c.settings)
  { ending := printing.ending 0, output := printing.bytes }

def runTerms (p : Platform) (disk : Disk) (e : Environment) (named : Option Text) : Except Stop Outcome := do
  pure (showTerms p (← p.load disk e named))

/-- Runs the program with the words of its command line. -/
def run (p : Platform) (around : Surroundings) (e : Environment) (args : List Text) : Outcome :=
  match p.call around.disk e args with
  | .over (.ok code) output messages => { ending := .exit code, output := output, messages := messages }
  | .over (.error failure) output messages =>
    { ending := .raised (.package failure), output := output, messages := messages }
  | .scan named r => p.settle (runScan p around e named r)
  | .terms named => p.settle (runTerms p around.disk e named)

end Wording.Command
