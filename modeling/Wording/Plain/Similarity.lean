import Wording.Text.Basic

/-!
How much two texts are alike. The longest run of characters that both hold is common to them, and so is
what the texts before it and the texts behind it have in common in the same way. Two texts are alike if
three fifths of their characters are common, so that a mistyped word finds the words that may be meant.
-/

set_option autoImplicit false

namespace Wording.Plain

/-- How many characters two texts begin with in common. -/
def commonBeginning : Text → Text → Nat
  | c :: s, d :: t => if c = d then commonBeginning s t + 1 else 0
  | _, _ => 0

/-- A run of characters that two texts hold, by its places in them and its length. -/
structure CommonRun where
  first : Nat
  second : Nat
  length : Nat
deriving DecidableEq, Repr

/-- The runs that two texts hold at each pair of places, by their places. -/
def commonRuns (s t : Text) : List CommonRun :=
  (List.range s.length).flatMap fun i =>
    (List.range t.length).map fun j => ⟨i, j, commonBeginning (s.drop i) (t.drop j)⟩

/-- The longest run that two texts hold, of several the first. -/
def longestCommonRun (s t : Text) : CommonRun :=
  (commonRuns s t).foldl (fun best run => if best.length < run.length then run else best) ⟨0, 0, 0⟩

/-- How many characters are common to two texts, the first of which has at most some characters. -/
def commonWithin : Nat → Text → Text → Nat
  | 0, _, _ => 0
  | bound + 1, s, t =>
    let run := longestCommonRun s t
    if run.length = 0 then 0
    else
      commonWithin bound (s.take run.first) (t.take run.second) + run.length
        + commonWithin bound (s.drop (run.first + run.length)) (t.drop (run.second + run.length))

/-- How many characters are common to two texts. -/
def commonCount (s t : Text) : Nat := commonWithin s.length s t

/-- Whether a count of common characters is three fifths of the characters of two texts. -/
def isThreeFifths (common : Nat) (s t : Text) : Bool := 3 * (s.length + t.length) ≤ 10 * common

/-- Whether two texts are alike. One that is much longer than the other cannot be. -/
def isAlike (s t : Text) : Bool :=
  isThreeFifths (min s.length t.length) s t && isThreeFifths (commonCount s t) s t

/-- Whether a text is at least as much like a word as another text; of two that are equally like it, the
later one in order goes first. -/
def isCloser (word s t : Text) : Bool :=
  let left := commonCount s word * (t.length + word.length)
  let right := commonCount t word * (s.length + word.length)
  right < left || (left = right && Text.le t s)

/-- The three texts that are most like a word, among those that are alike, in order. -/
def closest (word : Text) (texts : List Text) : List Text :=
  (((texts.filter fun t => isAlike t word).mergeSort (isCloser word)).take 3).mergeSort Text.le

end Wording.Plain
