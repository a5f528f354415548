import Wording.Command.Program

/-!
The words of the program about itself: how its commands are called, its help, and what is wrong with a
command line that it does not understand.
-/

set_option autoImplicit false

namespace Wording.Plain.Command

def textOfLines (lines : List String) : Text := lines.flatMap fun line => line.toList ++ ['\n']

/-- The place of a command line that is spoken of: the program as a whole, or one of its commands. -/
inductive Topic where
  | program
  | scan
  | terms
deriving DecidableEq, Repr

namespace Topic

def commandNames : List Text := ["scan".toList, "terms".toList]

def path : Topic → Text
  | .program => "biasscan".toList
  | .scan => "biasscan scan".toList
  | .terms => "biasscan terms".toList

def usage (topic : Topic) : Text :=
  "Usage: ".toList ++ topic.path ++ " [OPTIONS]".toList ++
    match topic with
    | .program => " COMMAND [ARGS]...\n".toList
    | .scan => " PATHS...\n".toList
    | .terms => ['\n']

def help (topic : Topic) : Text :=
  topic.usage ++ textOfLines
    (match topic with
    | .program =>
      ["",
       "  biasscan — find non-inclusive terms in source code.",
       "",
       "Options:",
       "  --version            Show the version and exit.",
       "  -s, --settings FILE  Path to a YAML settings / term-list file.",
       "  -v, --verbose        Enable verbose output.",
       "  --help               Show this message and exit.",
       "",
       "Commands:",
       "  scan   Scan source files and directories for biased terms.",
       "  terms  List the biased terms the scanner will look for."]
    | .scan =>
      ["",
       "  Scan source files and directories for biased terms.",
       "",
       "Options:",
       "  --case-sensitive / --ignore-case",
       "                                  Match terms case-sensitively (default: from",
       "                                  settings).",
       "  --no-identifiers                Skip identifiers.",
       "  --no-strings                    Skip string literals.",
       "  --no-comments                   Skip comments.",
       "  --time-per-fix INTEGER RANGE    Estimated seconds to fix one occurrence.",
       "                                  [x>=1]",
       "  -e, --exclude TEXT              File or directory names to exclude from the",
       "                                  scan.",
       "  -l, --language TEXT             Only show files detected as this language.",
       "  --search TEXT                   Only show files whose name or path contains",
       "                                  this text (case-insensitive).",
       "  --bias [high|low|medium|none]   Only show files in this bias band: high >10%,",
       "                                  medium 5-10%, low 0-5%, none 0%.",
       "  --sort [bias|elements|language|name|occurrences|time]",
       "                                  Sort the results table by this column",
       "                                  (descending, name ascending).  [default: bias]",
       "  --format [table|csv|detailed-csv|json]",
       "                                  [default: table]",
       "  -o, --output PATH               Write the exported results to this file",
       "                                  instead of stdout. An existing directory gets",
       "                                  a dated file name.",
       "  --details                       Show occurrences grouped by line.",
       "  --help                          Show this message and exit."]
    | .terms =>
      ["",
       "  List the biased terms the scanner will look for.",
       "",
       "Options:",
       "  --help  Show this message and exit."])

end Topic

def versionText : Text := "biasscan, version ".toList ++ Wording.Command.version ++ ['\n']

/-- Why a command line is not understood. -/
inductive UsageFault where
  | noSuchOption (name : Text) (alike : List Text)
  | valueMissing (name : Text)
  | valueUnexpected (name : Text)
  | missingCommand
  | noSuchCommand (name : Text) (alike : List Text)
  | missingPaths
  | notPath
  | noSuchPath (path : Text)
  | noSuchSettings (path : Text)
  | settingsAreFolder (path : Text)
  | notAmong (option : Text) (value : Text) (choices : List Text)
  | notInteger (option : Text) (value : Text)
  | notPositive (option : Text) (value : Int)
  | extraArguments (words : List Text)
deriving DecidableEq, Repr

namespace UsageFault

/-- What is wrong with the value of a parameter. -/
def invalid (parameter reason : Text) : Text :=
  "Invalid value for ".toList ++ parameter ++ ": ".toList ++ reason

def pathsParameter : Text := "'PATHS...'".toList

def settingsParameter : Text := "'--settings' / '-s'".toList

/-- The question whether one of some names was meant. -/
def question : List Text → Text
  | [] => []
  | [name] => " Did you mean ".toList ++ Text.shown name ++ ['?']
  | names => " (Did you mean one of: ".toList ++ Text.listed (names.map Text.shown) ++ "?)".toList

def message : UsageFault → Text
  | .noSuchOption name alike =>
    "No such option ".toList ++ Text.shown name ++ ['.'] ++ question alike
  | .valueMissing name => "Option ".toList ++ Text.shown name ++ " requires an argument.".toList
  | .valueUnexpected name => "Option ".toList ++ Text.shown name ++ " does not take a value.".toList
  | .missingCommand => "Missing command.".toList
  | .noSuchCommand name alike =>
    "No such command ".toList ++ Text.shown name ++ ['.'] ++ question alike
  | .missingPaths => "Missing argument ".toList ++ pathsParameter ++ ['.']
  | .notPath => FileError.notPath.message
  | .noSuchPath path =>
    invalid pathsParameter ("Path ".toList ++ Text.shown path ++ " does not exist.".toList)
  | .noSuchSettings path =>
    invalid settingsParameter ("File ".toList ++ Text.shown path ++ " does not exist.".toList)
  | .settingsAreFolder path =>
    invalid settingsParameter ("File ".toList ++ Text.shown path ++ " is a directory.".toList)
  | .notAmong option value choices =>
    invalid (Text.shown option)
      (Text.shown value ++ " is not one of ".toList ++ Text.listed (choices.map Text.shown) ++ ['.'])
  | .notInteger option value =>
    invalid (Text.shown option) (Text.shown value ++ " is not a valid integer range.".toList)
  | .notPositive option value =>
    invalid (Text.shown option) (Text.ofInt value ++ " is not in the range x>=1.".toList)
  | .extraArguments words =>
    let plural := if words.length = 1 then [] else ['s']
    "Got unexpected extra argument".toList ++ plural ++ " (".toList ++ Text.join [' '] words ++ [')']

/-- Whether a fault lies in one option alone, so that nothing is said of how the command is called. -/
def isBare : UsageFault → Bool
  | .valueMissing _ => true
  | .valueUnexpected _ => true
  | _ => false

/-- What the program says of a fault in the command line of a topic. -/
def text (fault : UsageFault) (topic : Topic) : Text :=
  let hint :=
    if fault.isBare then []
    else
      topic.usage ++ "Try '".toList ++ topic.path ++ " --help' for help.\n\n".toList
  hint ++ "Error: ".toList ++ fault.message ++ ['\n']

end UsageFault

end Wording.Plain.Command
