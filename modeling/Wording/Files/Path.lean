import Wording.Text.Basic
import Wording.Text.Lowercase

/-!
Paths as texts with slashes between their parts. The plain form of a path has no empty parts and no part
that is a single point; parts of two points stay, since what they mean hangs on the files.
-/

set_option autoImplicit false

namespace Wording.Path

/-- Whether a text is a path: no path holds U+0000. -/
def isPath (t : Text) : Bool := t.all (· ≠ '\x00')

/-- The slashes that make a path absolute: one, or exactly two. -/
def root : Text → Text
  | '/' :: '/' :: '/' :: _ => ['/']
  | '/' :: '/' :: _ => ['/', '/']
  | '/' :: _ => ['/']
  | _ => []

/-- The parts that name something. -/
def parts (path : Text) : List Text :=
  (Text.splitOnChar '/' path).filter fun part => part ≠ [] && part ≠ ['.']

/-- The plain form of a path; a path without parts is the current folder. -/
def plain (path : Text) : Text :=
  match root path ++ Text.join ['/'] (parts path) with
  | [] => ['.']
  | t => t

def name (path : Text) : Text := (parts path).getLast?.getD []

/-- A path in plain form with one part more. -/
def child (path part : Text) : Text :=
  if path = ['.'] then part
  else if path.getLast? = some '/' then path ++ part
  else path ++ '/' :: part

/-- The suffix of a name: from its last point on, if that point is neither the first nor the last
character. -/
def suffix (fileName : Text) : Text :=
  let after := (fileName.reverse.takeWhile (· ≠ '.')).reverse
  if after.length + 1 < fileName.length && after ≠ [] then '.' :: after else []

end Wording.Path
