import Wording.Files.Path
import Wording.Text.Utf8

/-!
Trees of files and folders: following the names of a path from one folder to the next, and listing the files below a
folder that a scan covers.
-/

set_option autoImplicit false

namespace Wording

/-- A file with its bytes, or a folder with its entries by name. -/
inductive Tree where
  | file (bytes : List UInt8)
  | folder (entries : List (Text × Tree))

namespace Tree

/-- Why a path can lead to nothing. -/
inductive Dead where
  | missing
  | throughFile
  | tooLong
  | notPath
deriving DecidableEq, Repr

/-- The bytes of a text in a path. -/
def pathBytes (t : Text) : Nat := (Text.encodeUtf8 t).length

def longestName : Nat := 255

def longestPath : Nat := 4095

/-- Follows the parts of a path from a tree whose ancestors are given, the nearest first. An empty part, or one that is
a point, asks for a folder; two points lead to the folder above, and from the topmost one nowhere else. -/
def follow (ancestors : List Tree) (here : Tree) : List Text → Except Dead Tree
  | [] => .ok here
  | part :: rest =>
    match here with
    | .file _ => .error .throughFile
    | .folder entries =>
      if part = [] || part = ['.'] then follow ancestors here rest
      else if part = ['.', '.'] then
        match ancestors with
        | [] => follow [] here rest
        | parent :: above => follow above parent rest
      else if longestName < pathBytes part then .error .tooLong
      else
        match entries.find? fun entry => entry.1 = part with
        | none => .error .missing
        | some entry => follow (here :: ancestors) entry.2 rest

def isFolder : Tree → Bool
  | .file _ => false
  | .folder _ => true

/-- Folders that no scan enters. -/
def skippedFolders : List Text :=
  [".git", ".hg", ".svn", "node_modules", "__pycache__", ".mypy_cache", ".pytest_cache",
   ".ruff_cache", ".venv", "venv", ".tox", ".eggs", "dist", "build"].map String.toList

/-- Suffixes of files that hold no text. -/
def binarySuffixes : List Text :=
  [".pyc", ".pyo", ".so", ".dylib", ".dll", ".exe", ".bin", ".dat", ".png", ".jpg", ".jpeg", ".gif",
   ".ico", ".pdf", ".zip", ".tar", ".gz", ".bz2", ".whl", ".egg", ".db", ".sqlite",
   ".sqlite3"].map String.toList

/-- Whether a scan enters a folder of this name. -/
def entersFolder (excluded : List Text) (name : Text) : Bool :=
  !skippedFolders.contains name
    && !Text.beginsWith ".egg-info".toList.reverse name.reverse
    && !excluded.contains name

/-- Whether a scan covers a file of this name. -/
def coversFile (excluded : List Text) (name : Text) : Bool :=
  !binarySuffixes.contains (Text.lower (Path.suffix name)) && !excluded.contains name

/-- An entry of a folder as a scan sees it: a file, or a folder with the paths of the files below it. -/
inductive Listed where
  | file (name : Text)
  | folder (name : Text) (paths : List Text)
deriving DecidableEq, Repr

def Listed.name : Listed → Text
  | .file name => name
  | .folder name _ => name

/-- The paths that the entries of a folder stand for: first its files by name, then what lies below its
folders, these by name too. -/
def arrange (excluded : List Text) (path : Text) (listed : List Listed) : List Text :=
  let byName := listed.mergeSort fun a b => Text.le a.name b.name
  let files := byName.filterMap fun entry =>
    match entry with
    | .file name => if coversFile excluded name then some (Path.child path name) else none
    | .folder _ _ => none
  let below := byName.flatMap fun entry =>
    match entry with
    | .file _ => []
    | .folder name paths => if entersFolder excluded name then paths else []
  files ++ below

/-- The bytes of the path by which a walk opens an entry of a folder that it opened by so many bytes. -/
def bytesBelow (bytes : Nat) (name : Text) : Nat := bytes + 1 + pathBytes name

mutual

/-- The paths of the files below a folder that a scan covers, where `path` is the path of the folder, which the
walk opens by so many bytes. A folder with too long a path cannot be opened, and the walk goes on without it. -/
def filesBelow (excluded : List Text) (path : Text) (bytes : Nat) : Tree → List Text
  | .file _ => []
  | .folder entries =>
    if longestPath < bytes then [] else arrange excluded path (listing excluded path bytes entries)

/-- The entries of a folder as a scan sees them. -/
def listing (excluded : List Text) (path : Text) (bytes : Nat) : List (Text × Tree) → List Listed
  | [] => []
  | (name, tree) :: rest =>
    (match tree with
      | .file _ => Listed.file name
      | .folder _ =>
        Listed.folder name (filesBelow excluded (Path.child path name) (bytesBelow bytes name) tree))
      :: listing excluded path bytes rest

end

/-- Puts a tree at the place that some names lead to, with the folders that are missing on the way. Below a
file nothing can be put. -/
def put (new : Tree) : List Text → Tree → Tree
  | [], _ => new
  | name :: rest, .folder entries =>
    match entries.find? fun entry => entry.1 = name with
    | some _ =>
      .folder (entries.map fun (other, tree) => (other, if other = name then put new rest tree else tree))
    | none => .folder (entries ++ [(name, put new rest (.folder []))])
  | _ :: _, .file bytes => .file bytes

end Tree

end Wording
