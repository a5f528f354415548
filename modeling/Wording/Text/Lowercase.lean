import Wording.Text.Lowercase.Table

/-!
Lower-casing of texts by the full mapping of Unicode. One letter becomes two: the capital I with a dot.
The capital sigma at the end of a word becomes the final sigma, so the small form of a text is not made
character by character.
-/

set_option autoImplicit false

namespace Wording.Text

/-- The run of an ascending list in which a code point lies. -/
def runOf? : List CaseRun → Nat → Option CaseRun
  | [], _ => none
  | run :: rest, n =>
    if n < run.first then none else if n ≤ run.last then some run else runOf? rest n

/-- The small letter of a character, where it is one character; a character without one stays. -/
def smallLetter (c : Char) : Char :=
  match runOf? caseRuns c.toNat with
  | some run =>
    if (c.toNat - run.first) % run.step = 0 then Char.ofNat (run.lower + (c.toNat - run.first)) else c
  | none => c

/-- Whether casing looks through a character. -/
def isCaseIgnorable (c : Char) : Bool := caseIgnorableSpans.has c.toNat

/-- Whether a character is cased and not looked through. -/
def isCased (c : Char) : Bool := casedSpans.has c.toNat

/-- Whether the nearest character that casing does not look through is cased. -/
def nearestIsCased (t : List Char) : Bool :=
  match t.dropWhile isCaseIgnorable with
  | c :: _ => isCased c
  | [] => false

/-- The small form of one character between the reversed text before it and the text after it. -/
def lowerBetween (before : List Char) (c : Char) (after : List Char) : List Char :=
  if c = 'Σ' then
    if nearestIsCased before && !nearestIsCased after then ['ς'] else ['σ']
  else if c = 'İ' then ['i', '\u0307']
  else [smallLetter c]

/-- The small form of a text that follows a reversed text. -/
def lowerAfter (before : List Char) : List Char → List Char
  | [] => []
  | c :: after => lowerBetween before c after ++ lowerAfter (c :: before) after

/-- The small form of a text. -/
def lower (t : List Char) : List Char := lowerAfter [] t

end Wording.Text
