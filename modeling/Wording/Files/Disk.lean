import Wording.Files.Tree
import Wording.Text.Quoted

/-!
A disk: the tree of all its files and folders, and the folder that a program works in. A path that begins with a slash
leads from the root of the disk, and any other one from the working folder.
-/

set_option autoImplicit false

namespace Wording

/-- Why a file cannot be read: its path leads to nothing or to something else, a name in it is too long, it
is no path at all, or the bytes of the file are not UTF-8. -/
inductive FileError where
  | notFound (path : Text)
  | isFolder (path : Text)
  | notFolder (path : Text)
  | nameTooLong (path : Text)
  | notPath
  | notUtf8 (fault : Text.Utf8Error)
deriving DecidableEq, Repr

def Text.Utf8Error.message (e : Text.Utf8Error) : Text :=
  let place :=
    if e.count = 1 then
      "byte 0x".toList ++ Text.hexPadded 2 e.byte.toNat ++ " in position ".toList
        ++ Nat.toDigits 10 e.position
    else
      "bytes in position ".toList ++ Nat.toDigits 10 e.position ++ '-'
        :: Nat.toDigits 10 (e.position + e.count - 1)
  "'utf-8' codec can't decode ".toList ++ place ++ ": ".toList ++ e.fault.message

def FileError.message : FileError → Text
  | .notFound path => "[Errno 2] No such file or directory: ".toList ++ Text.shown path
  | .isFolder path => "[Errno 21] Is a directory: ".toList ++ Text.shown path
  | .notFolder path => "[Errno 20] Not a directory: ".toList ++ Text.shown path
  | .nameTooLong path => "[Errno 36] File name too long: ".toList ++ Text.shown path
  | .notPath => "embedded null byte".toList
  | .notUtf8 fault => fault.message

/-- The error of reading a file at a path that leads to nothing. -/
def Tree.Dead.error (path : Text) : Tree.Dead → FileError
  | .missing => .notFound path
  | .throughFile => .notFolder path
  | .tooLong => .nameTooLong path
  | .notPath => .notPath

/-- A disk. The names lead from its root to the working folder, which is not there any more if they lead nowhere. -/
structure Disk where
  root : Tree
  workingNames : List Text

namespace Disk

open Wording.Tree (isFolder pathBytes longestPath filesBelow)

/-- The names that a path is followed through from the root: those of the working folder come before a path that does
not begin at the root itself. -/
def route (d : Disk) (path : Text) : List Text :=
  let parts := Text.splitOnChar '/' path
  if path.head? = some '/' then parts else d.workingNames ++ parts

/-- What a path leads to, the path taken as it is written. -/
def at? (d : Disk) (path : Text) : Except Tree.Dead Tree :=
  if !Path.isPath path then .error .notPath
  else if longestPath < pathBytes path then .error .tooLong
  else if path = [] then .error .missing
  else Tree.follow [] d.root (d.route path)

/-- Whether a path leads to something that a test holds of; a name that is too long cannot be asked for. -/
def holdsAt (test : Tree → Bool) (d : Disk) (path : Text) : Except FileError Bool :=
  match d.at? path with
  | .ok found => .ok (test found)
  | .error .tooLong => .error (.nameTooLong path)
  | .error _ => .ok false

def isFolderAt (d : Disk) (path : Text) : Except FileError Bool := d.holdsAt isFolder path

def isFileAt (d : Disk) (path : Text) : Except FileError Bool :=
  d.holdsAt (fun found => !found.isFolder) path

/-- The text of the file at a path, its line ends unified. -/
def readText (d : Disk) (path : Text) : Except FileError Text :=
  match d.at? path with
  | .error dead => .error (dead.error path)
  | .ok (.folder _) => .error (.isFolder path)
  | .ok (.file bytes) =>
    match Text.decodeUtf8 bytes with
    | .ok t => .ok (Text.unifyLineEnds t)
    | .error fault => .error (.notUtf8 fault)

/-- The files that a path stands for: those below it if it is a folder, else the path itself. -/
def collectPath (d : Disk) (excluded : List Text) (path : Text) : Except FileError (List Text) :=
  let path := Path.plain path
  match d.at? path with
  | .ok (.folder entries) => .ok (filesBelow excluded path (pathBytes path) (.folder entries))
  | .error .tooLong => .error (.nameTooLong path)
  | _ => .ok [path]

/-- The files that some paths stand for, path by path. -/
def collect (d : Disk) (excluded paths : List Text) : Except FileError (List Text) := do
  pure (← paths.mapM (collectPath d excluded)).flatten

/-- Why a file at a path in plain form cannot be written: its folder is missing or no folder, or a folder
stands in its place. -/
def writeFault? (d : Disk) (path : Text) : Option FileError :=
  match d.at? path with
  | .ok (.file _) => none
  | .ok (.folder _) => some (.isFolder path)
  | .error .missing =>
    let above := Path.plain (Path.root path ++ Text.join ['/'] (Path.parts path).dropLast)
    if (d.at? above).toOption.any isFolder then none else some (.notFound path)
  | .error dead => some (dead.error path)

/-- The names that lead from the root to a path; a part of two points takes the name before it away. -/
def namesTo (d : Disk) (path : Text) : List Text :=
  let step (names : List Text) (part : Text) : List Text :=
    if part = ['.', '.'] then names.tail else part :: names
  let start := if path.head? = some '/' then [] else d.workingNames.reverse
  ((Path.parts path).foldl step start).reverse

/-- The disk after a file was written at a path in plain form. -/
def write (d : Disk) (path : Text) (bytes : List UInt8) : Except FileError Disk :=
  match d.writeFault? path with
  | some fault => .error fault
  | none => .ok { d with root := Tree.put (.file bytes) (d.namesTo path) d.root }

end Disk

end Wording
