/-!
Sets of characters are written as ascending lists of closed spans of code points. The list is read
from the left and left as soon as a span begins above the code point that is looked for.
-/

set_option autoImplicit false

namespace Wording.Text

/-- An ascending list of closed spans of code points. -/
abbrev Spans := List (Nat × Nat)

/-- Whether a code point lies in one of the spans. -/
def Spans.has : Spans → Nat → Bool
  | [], _ => false
  | (first, last) :: rest, n =>
    if n < first then false else if n ≤ last then true else Spans.has rest n

end Wording.Text
