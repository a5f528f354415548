import Wording.Plain.Command.CommandLine
import Wording.Plain.Console.Table
import Wording.Plain.Document.Read

/-!
A platform to run the program on where the packages of the real one are not at hand: a reader of plain documents, a
console without colours that is wide enough for everything, and the command line. It stands in for them when the program
is tried out. What is proved of the program is proved for every platform, and rests on nothing of this.
-/

set_option autoImplicit false

namespace Wording.Plain

/-- What is raised for a document that cannot be read. -/
def DocumentError.failure (e : DocumentError) : Failure :=
  let kind :=
    match e with
    | .malformed => "YAMLError"
    | .tooDeep => "RecursionError"
    | .noDigits _ | .tooManyDigits _ => "ValueError"
    | .number _ => "OverflowError"
    | .noCharacter code => if code < 0x80000000 then "ValueError" else "OverflowError"
  ⟨kind, e.message⟩

/-- The reader of plain documents, with as much room as a program has that has just begun. -/
def documentReader : DocumentReader where
  read t := (Document.read t).mapError DocumentError.failure
  rooms _ := 975

/-- What is printed of something that is handed to the console. -/
def printed : Wording.Console.Printout → Text
  | .text markup => Console.printed markup
  | .table t => Console.Table.text t

/-- The wording of a complaint. -/
def complaintText : Wording.Command.Complaint → Text
  | .settings reason => "Error: Invalid settings: ".toList ++ reason ++ ['\n']
  | .option reason =>
    let topic := Command.Topic.scan
    topic.usage ++ "Try '".toList ++ topic.path ++ " --help' for help.\n\nError: Invalid value: ".toList ++ reason ++
      ['\n']

/-- The plain platform. -/
def platform : Wording.Command.Platform where
  reader := documentReader
  escape := Console.escape
  print _ what := .ok (Text.encodeUtf8 (printed what))
  echo t := .ok (Text.encodeUtf8 (Console.withoutStyle (t ++ ['\n'])))
  complaintText c := Text.encodeUtf8 (Console.withoutStyle (complaintText c))
  call disk _ args := Command.callOf disk args

end Wording.Plain
