import Wording.Files.Disk
import Wording.Text.Integer

/-!
Sources of a scan: a name with a text, or with the path of a file to read.
-/

set_option autoImplicit false

namespace Wording

/-- Something to scan: its content is given, or read from its path. -/
structure Source where
  name : Text
  content : Option Text := none
  path : Option Text := none
deriving DecidableEq, Repr

/-- Why a source could not be scanned. -/
inductive ScanError where
  | nothingToRead (name : Text)
  | file (fault : FileError)
  | tooLarge (name : Text) (size : Nat) (limit : Int)
  | parserGaveUp (message : Text)
deriving DecidableEq, Repr

/-- The wording of a scan error; a size or a limit that cannot be written leaves only that to be said. -/
def ScanError.message : ScanError → Text
  | .nothingToRead name =>
    "SourceFile ".toList ++ Text.shown name ++ " has neither content nor path".toList
  | .file fault => fault.message
  | .tooLarge name size limit =>
    match Text.writeInt size, Text.writeInt limit with
    | .ok size, .ok limit => name ++ " is ".toList ++ size ++ " characters, limit is ".toList ++ limit
    | _, _ => Unwritable.tooManyDigits.message
  | .parserGaveUp message => message

namespace Source

/-- The source at a path, under the last part of the path. -/
def ofPath (path : Text) : Source := { name := Path.name path, path := some path }

/-- What a report calls the place of the source. -/
def displayPath (s : Source) : Text := s.path.elim s.name Path.plain

/-- The text of a source. -/
def read (s : Source) (disk : Disk) : Except ScanError Text :=
  match s.content, s.path with
  | some t, _ => .ok t
  | none, some path => (disk.readText (Path.plain path)).mapError .file
  | none, none => .error (.nothingToRead s.name)

end Source

end Wording
