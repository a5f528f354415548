import Wording.Text.Basic
import Wording.Plain.Width.Table

/-!
The columns that a text takes on a terminal. Most characters take one, wide ones two, and marks that belong to the
character before them none. A joiner draws the next character into the one before it, and a picture mark widens the
character before it if that has a picture. What is drawn as one is a cluster; a text can be cut between clusters only.
-/

set_option autoImplicit false

namespace Wording.Plain

def charWidth (c : Char) : Nat :=
  if zeroWidthSpans.has c.toNat then 0 else if wideSpans.has c.toNat then 2 else 1

/-- The character that draws the next one into the one before it. -/
def joiner : Char := '\u200D'

/-- The mark that asks for the picture of the character before it. -/
def pictureMark : Char := '\uFE0F'

/-- The columns that a picture mark adds to the last character with columns. -/
def pictureGain : Option Char → Nat
  | some c => if picturedSpans.has c.toNat then 1 else 0
  | none => 0

/-- The columns of a text behind the last character with columns; its first character may be joined to
what stands before. -/
def widthBehind (joined : Bool) (last : Option Char) : Text → Nat
  | [] => 0
  | c :: rest =>
    if joined then widthBehind false last rest
    else if c = joiner then widthBehind true last rest
    else if c = pictureMark then pictureGain last + widthBehind false none rest
    else
      charWidth c + widthBehind false (if charWidth c = 0 then last else some c) rest

def width (t : Text) : Nat := widthBehind false none t

/-- Characters that are drawn as one, and their columns. -/
structure Cluster where
  text : Text
  width : Nat
deriving DecidableEq, Repr

/-- Adds a character and columns to a cluster. -/
def Cluster.absorb (k : Cluster) (c : Char) (columns : Nat) : Cluster :=
  ⟨k.text ++ [c], k.width + columns⟩

/-- The clusters of a text behind an open cluster, which its first character may be joined to. -/
def clustersBehind (joined : Bool) (last : Option Char) (k : Cluster) : Text → List Cluster
  | [] => [k]
  | c :: rest =>
    if joined then clustersBehind false last (k.absorb c 0) rest
    else if c = joiner then clustersBehind true last (k.absorb c 0) rest
    else if c = pictureMark then
      let gain := pictureGain last
      clustersBehind false (if gain = 0 then last else none) (k.absorb c gain) rest
    else if charWidth c = 0 then clustersBehind false last (k.absorb c 0) rest
    else k :: clustersBehind false (some c) ⟨[c], charWidth c⟩ rest

/-- The clusters of a text. What has no column belongs to the cluster before it. -/
def clusters : Text → List Cluster
  | [] => []
  | c :: rest =>
    if c = joiner || c = pictureMark || charWidth c = 0 then clustersBehind false none ⟨[c], 0⟩ rest
    else clustersBehind false (some c) ⟨[c], charWidth c⟩ rest

/-- The clusters that fit into some columns, as a text; a space stands for one that fits in half. -/
def fitting (columns : Nat) : List Cluster → Text
  | [] => []
  | k :: rest =>
    if columns = 0 then []
    else if k.width ≤ columns then k.text ++ fitting (columns - k.width) rest
    else [' ']

/-- The beginning of a text that fills some columns, if the text takes more of them. -/
def cutToWidth (columns : Nat) (t : Text) : Text :=
  if columns < width t then fitting columns (clusters t) else t

end Wording.Plain
