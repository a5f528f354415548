import Wording.Scan.Scanner
import Wording.Settings.Layer
import Wording.Text.Integer

/-!
The configuration of the program: settings from a file that is named or lies in the folder for configurations, and over
them what the variables of the environment say. The first fault ends the loading. How the text of a settings file is
read is not settled here: the reader of documents is a parameter, and so are the levels that it leaves for the values
that messages show.
-/

set_option autoImplicit false

namespace Wording

/-- What a package raises: the kind of the exception, and what it says. -/
structure Failure where
  kind : String
  message : Text
deriving DecidableEq, Repr

/-- What settings are read with: a reader of documents, and the levels that are left where values are shown. -/
structure DocumentReader where
  read : Text → Except Failure Value
  rooms : Rooms

/-- The surroundings of a program that it does not find on a disk: its variables, and the home folder of its user by
the records of the machine, if these know the user. -/
structure Environment where
  bindings : List (String × Text)
  homeOnRecord : Option Text := none

def Environment.text? (e : Environment) (name : String) : Option Text :=
  (e.bindings.find? fun b => b.1 = name).map (·.2)

/-- The text of a variable; an empty one counts as absent. -/
def Environment.value? (e : Environment) (name : String) : Option Text :=
  match e.text? name with
  | some [] => none
  | found => found

/-- Why no configuration can be loaded. -/
inductive ConfigurationError where
  | homeless
  | unreadable (fault : FileError)
  | notDocument (failure : Failure)
  | refused (fault : SettingsError)

def ConfigurationError.message : ConfigurationError → Text
  | .homeless => "Could not determine home directory.".toList
  | .unreadable fault => fault.message
  | .notDocument failure => failure.message
  | .refused fault => fault.message

/-- What a scan is configured with, and where that was found. -/
structure Configuration where
  folder : Text
  settingsPath : Option Text
  settings : Settings
  sizeLimit : Int

namespace Configuration

/-- The home folder: what the variable for it says, even nothing, else the records of the machine. Slashes at its end
are taken off, and the root of all folders is left if nothing else is. A name that begins with a tilde stands for
another home, so it names none. -/
def homeFolder (e : Environment) : Except ConfigurationError Text :=
  match (e.text? "HOME").or e.homeOnRecord with
  | none => .error .homeless
  | some ('~' :: _) => .error .homeless
  | some home =>
    match (home.reverse.dropWhile (· = '/')).reverse with
    | [] => .ok ['/']
    | t => .ok t

/-- The folder for configurations: below the one that the environment names for all programs, else below
a hidden folder of the home folder. -/
def folderOf (e : Environment) : Except ConfigurationError Text :=
  match e.value? "XDG_CONFIG_HOME" with
  | some base => .ok (Path.child (Path.plain base) "biasscan".toList)
  | none => do
    let hidden := Path.child (Path.plain (← homeFolder e)) ".config".toList
    pure (Path.child hidden "biasscan".toList)

/-- The path of the settings file: the one that is named, else a file of the folder, if it is there. -/
def settingsPath? (disk : Disk) (folder : Text) (named : Option Text) :
    Except ConfigurationError (Option Text) :=
  match named with
  | some path => .ok (some (Path.plain path))
  | none => do
    let candidate := Path.child folder "settings.yaml".toList
    let isThere ← (disk.isFileAt candidate).mapError .unreadable
    pure (if isThere then some candidate else none)

/-- The settings that the text of a settings file describes over a base. -/
def settingsOfText (reader : DocumentReader) (base : Settings) (text : Text) :
    Except ConfigurationError Settings := do
  let v ← (reader.read text).mapError .notDocument
  (base.layerValue reader.rooms v).mapError .refused

/-- The built-in settings, under those of a settings file if there is one. -/
def settingsOfFile (reader : DocumentReader) (disk : Disk) : Option Text → Except ConfigurationError Settings
  | none => .ok .builtin
  | some path => do settingsOfText reader .builtin (← (disk.readText path).mapError .unreadable)

/-- The integer that a variable gives. -/
def integerOf (name : String) (value : Text) : Except SettingsError Int :=
  (Text.readInteger? value).elim (.error (.variableNotInteger name value)) .ok

def trueWords : List Text := ["1", "true", "yes", "on"].map String.toList

def falseWords : List Text := ["0", "false", "no", "off"].map String.toList

/-- The truth value that a variable gives, in small or capital letters. -/
def booleanOf (name : String) (value : Text) : Except SettingsError Bool :=
  let word := Text.lower (Text.trim value)
  if trueWords.contains word then .ok true
  else if falseWords.contains word then .ok false
  else .error (.variableNotBoolean name value)

/-- Reads a variable, if it is there. -/
def given? {α : Type} (e : Environment) (read : String → Text → Except SettingsError α)
    (name : String) : Except SettingsError (Option α) :=
  (e.value? name).mapM (read name)

/-- The settings with the changes that the environment asks for, first the time, then letter case. -/
def settingsOfEnvironment (e : Environment) (s : Settings) : Except SettingsError Settings := do
  let s ← s.replace { timePerFix := ← given? e integerOf "BIASSCAN_TIME_PER_FIX" }
  s.replace { caseSensitive := ← given? e booleanOf "BIASSCAN_CASE_SENSITIVE" }

/-- The size limit that the environment asks for, else the built-in one. -/
def sizeLimitOf (e : Environment) : Except SettingsError Int := do
  pure ((← given? e integerOf "BIASSCAN_MAX_FILE_SIZE").getD Scanner.builtinSizeLimit)

/-- Loads the configuration, with the settings file that is named, if one is. -/
def load (reader : DocumentReader) (disk : Disk) (e : Environment) (named : Option Text) :
    Except ConfigurationError Configuration := do
  let folder ← folderOf e
  let path ← settingsPath? disk folder named
  let fromFile ← settingsOfFile reader disk path
  let settings ← (settingsOfEnvironment e fromFile).mapError .refused
  let sizeLimit ← (sizeLimitOf e).mapError .refused
  pure { folder := folder, settingsPath := path, settings := settings, sizeLimit := sizeLimit }

end Configuration

end Wording
