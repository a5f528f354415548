import Wording.Plain.Command.Switch
import Wording.Plain.Console.Style

/-!
The command line of the program, read in a plain way: its own switches come first, then the name of a command with the
words for it. Help and the version are answered before anything else is checked, and the words are checked before they
make a call.
-/

set_option autoImplicit false

namespace Wording.Plain.Command

open Wording.Command (Call Format ScanRequest)

/-! ## Calls that are over -/

def answer (t : Text) : Call := .over (.ok 0) (Text.encodeUtf8 t) []

/-- A call that is not understood. A text that is no path ends it with a failure. -/
def misused (topic : Topic) (fault : UsageFault) : Call :=
  if fault = .notPath then .over (.error ⟨"ValueError", FileError.notPath.message⟩) [] []
  else .over (.ok 2) [] (Text.encodeUtf8 (Console.withoutStyle (fault.text topic)))

/-! ## The words of a scan -/

/-- What a switch of the scan command stands for. -/
inductive ScanKey where
  | caseSensitive
  | ignoreCase
  | noIdentifiers
  | noStrings
  | noComments
  | timePerFix
  | exclude
  | language
  | search
  | bias
  | sort
  | format
  | output
  | details
  | help
deriving DecidableEq, Repr

def scanSwitches : List (Switch ScanKey) :=
  let switch (key : ScanKey) (names : List String) (takesValue : Bool) : Switch ScanKey :=
    ⟨key, names.map String.toList, takesValue⟩
  [switch .caseSensitive ["--case-sensitive"] false,
   switch .ignoreCase ["--ignore-case"] false,
   switch .noIdentifiers ["--no-identifiers"] false,
   switch .noStrings ["--no-strings"] false,
   switch .noComments ["--no-comments"] false,
   switch .timePerFix ["--time-per-fix"] true,
   switch .exclude ["--exclude", "-e"] true,
   switch .language ["--language", "-l"] true,
   switch .search ["--search"] true,
   switch .bias ["--bias"] true,
   switch .sort ["--sort"] true,
   switch .format ["--format"] true,
   switch .output ["--output", "-o"] true,
   switch .details ["--details"] false,
   switch .help ["--help"] false]

def formatText : Format → Text
  | .table => "table".toList
  | .document kind => kind.text

def formats : List Format := [.table, .document .csv, .document .detailedCsv, .document .json]

def format? (t : Text) : Option Format := formats.find? fun f => formatText f = t

/-- What is wrong with the last value of a switch. -/
def switchFault? (w : Words ScanKey) (key : ScanKey) : Option UsageFault := do
  let value ← w.last? key
  let notAmong (option : String) (choices : List Text) : UsageFault :=
    .notAmong option.toList value choices
  match key with
  | .timePerFix =>
    let option := "--time-per-fix".toList
    match Text.readInteger? value with
    | none => some (.notInteger option value)
    | some n => if 0 < n then none else some (.notPositive option n)
  | .bias =>
    if (BiasBand.ofText? value).isSome then none
    else some (notAmong "--bias" (BiasBand.all.map BiasBand.text))
  | .sort =>
    if (SortColumn.ofText? value).isSome then none
    else some (notAmong "--sort" (SortColumn.all.map SortColumn.text))
  | .format => if (format? value).isSome then none else some (notAmong "--format" (formats.map formatText))
  | .output => if Path.isPath value then none else some .notPath
  | _ => none

/-- What is wrong with a path: it leads to nothing. -/
def pathFault? (disk : Disk) (path : Text) : Option UsageFault :=
  match disk.at? path with
  | .ok _ => none
  | .error .notPath => some .notPath
  | .error _ => some (.noSuchPath path)

/-- What is wrong with the paths: there is none, or there is something wrong with one. -/
def pathsFault? (disk : Disk) (paths : List Text) : Option UsageFault :=
  if paths = [] then some .missingPaths else paths.findSome? (pathFault? disk)

/-- The first fault of the words, first of the switches in their order, then of the paths. -/
def scanFault? (disk : Disk) (w : Words ScanKey) : Option UsageFault :=
  (w.keys.findSome? (switchFault? w)).or (pathsFault? disk w.operands)

/-- Whether letter case matters by the last word on it. -/
def caseSensitive? (w : Words ScanKey) : Option Bool :=
  w.switches.reverse.findSome? fun (key, _) =>
    match key with
    | .caseSensitive => some true
    | .ignoreCase => some false
    | _ => none

/-- The request that words without fault make. -/
def requestOf (w : Words ScanKey) : ScanRequest where
  paths := w.operands
  caseSensitive := caseSensitive? w
  timePerFix := (w.last? .timePerFix).bind Text.readInteger?
  skipsIdentifiers := w.has .noIdentifiers
  skipsStrings := w.has .noStrings
  skipsComments := w.has .noComments
  excluded := w.all .exclude
  selection :=
    { language := (w.last? .language).getD []
      search := (w.last? .search).getD []
      band := (w.last? .bias).bind BiasBand.ofText?
      sortBy := ((w.last? .sort).bind SortColumn.ofText?).getD .bias }
  format := ((w.last? .format).bind format?).getD .table
  output := (w.last? .output).getD []
  details := w.has .details

/-- The call for a scan with the words behind its name. -/
def callForScan (disk : Disk) (named : Option Text) (args : List Text) : Call :=
  match Switch.readWords scanSwitches true args with
  | .error fault => misused .scan fault
  | .ok w =>
    if w.has .help then answer Topic.scan.help
    else
      match scanFault? disk w with
      | some fault => misused .scan fault
      | none => .scan named (requestOf w)

/-! ## The words of the program -/

/-- What a switch of the program stands for. -/
inductive ProgramKey where
  | settings
  | verbose
  | version
  | help
deriving DecidableEq, Repr

def programSwitches : List (Switch ProgramKey) :=
  let switch (key : ProgramKey) (names : List String) (takesValue : Bool) : Switch ProgramKey :=
    ⟨key, names.map String.toList, takesValue⟩
  [switch .settings ["--settings", "-s"] true, switch .verbose ["--verbose", "-v"] false,
   switch .version ["--version"] false, switch .help ["--help"] false]

/-- What is wrong with the settings file that words name: it must be a file that is there. -/
def settingsFault? (disk : Disk) (w : Words ProgramKey) : Option UsageFault := do
  let path ← w.last? .settings
  match disk.at? path with
  | .ok (.folder _) => some (.settingsAreFolder path)
  | .ok (.file _) => none
  | .error .notPath => some .notPath
  | .error _ => some (.noSuchSettings path)

/-- The answer to the first switch that asks for help or for the version. -/
def answer? (w : Words ProgramKey) : Option Call :=
  w.switches.findSome? fun (key, _) =>
    match key with
    | .version => some (answer versionText)
    | .help => some (answer Topic.program.help)
    | _ => none

/-- Reads the words of the program: what stands before the name of a command, and the words from there on. Some words
already make a call that is over. -/
def readProgram (disk : Disk) (args : List Text) : Call ⊕ Words ProgramKey :=
  match Switch.readWords programSwitches false args with
  | .error fault => .inl (misused .program fault)
  | .ok w =>
    match answer? w, settingsFault? disk w with
    | some call, _ => .inl call
    | none, some fault => .inl (misused .program fault)
    | none, none => .inr w

/-- The call for the terms with the words behind its name. -/
def callForTerms (named : Option Text) (args : List Text) : Call :=
  match Switch.readWords [Switch.mk () ["--help".toList] false] true args with
  | .error fault => misused .terms fault
  | .ok w =>
    if w.has () then answer Topic.terms.help
    else if w.operands ≠ [] then misused .terms (.extraArguments w.operands)
    else .terms named

/-- The call for the name of a command that there is none of. If the name is a switch, it is read for one, together
with the words behind it. -/
def callForUnknown (disk : Disk) (name : Text) (rest : List Text) : Call :=
  match readProgram disk (name :: rest) with
  | .inl call => call
  | .inr _ => misused .program (.noSuchCommand name (closest name Topic.commandNames))

/-- The call that the words of a command line make. -/
def callOf (disk : Disk) (args : List Text) : Call :=
  if args = [] then .over (.ok 2) [] (Text.encodeUtf8 Topic.program.help)
  else
    match readProgram disk args with
    | .inl call => call
    | .inr w =>
      let named := w.last? .settings
      match w.operands with
      | [] => misused .program .missingCommand
      | name :: rest =>
        if name = "scan".toList then callForScan disk named rest
        else if name = "terms".toList then callForTerms named rest
        else callForUnknown disk name rest

end Wording.Plain.Command
