import Wording.Plain.Document.Error
import Wording.Plain.Document.Graph

/-!
Mappings that take over entries. Under the merge sign stands a mapping or a list of mappings, whose entries
go before the mapping's own; of a list, those of the last mapping go first. What is taken over from has
taken over its own entries before. Two mappings can take over from each other, and one from itself.
-/

set_option autoImplicit false

namespace Wording.Plain.Document

/-- The entries of a mapping, by the numbers of their nodes. -/
abbrev Entries := List (NodeId × NodeId)

namespace Graph

/-- What stands under the first merge sign of some entries, and the entries without it. -/
def takeMerge? (g : Graph) : Entries → Option (NodeId × Entries)
  | [] => none
  | (key, value) :: rest =>
    if (g.node key).isMergeSign then some (value, rest)
    else (takeMerge? g rest).map fun (source, others) => (source, (key, value) :: others)

/-- Makes the keys of a mapping that are value signs texts. -/
def settleKeys (g : Graph) (id : NodeId) : Graph :=
  (g.entries id).foldl
    (fun g entry => if (g.node entry.1).isValueSign then g.put entry.1 (.scalar ['='] false) else g) g

mutual

/-- Lets a mapping take over what it asks for. -/
def merge : Nat → NodeId → Graph → Except DocumentError Graph
  | 0, _, g => .ok g
  | fuel + 1, id, g => mergeBehind fuel id [] g

/-- Lets a mapping take over what it still asks for, behind the entries that it has taken over. -/
def mergeBehind : Nat → NodeId → Entries → Graph → Except DocumentError Graph
  | 0, _, _, g => .ok g
  | fuel + 1, id, taken, g =>
    match g.takeMerge? (g.entries id) with
    | none => .ok ((g.settleKeys id).put id (.map (taken ++ g.entries id)))
    | some (source, others) => do
      let g := g.put id (.map others)
      match g.node source with
      | .map _ =>
        let g ← merge fuel source g
        mergeBehind fuel id (taken ++ g.entries source) g
      | .list items =>
        let (parts, g) ← mergeAll fuel items g
        mergeBehind fuel id (taken ++ parts.reverse.flatten) g
      | _ => throw .malformed

/-- Lets all mappings of a list take over what they ask for, and answers their entries. -/
def mergeAll : Nat → List NodeId → Graph → Except DocumentError (List Entries × Graph)
  | 0, _, g => .ok ([], g)
  | _ + 1, [], g => .ok ([], g)
  | fuel + 1, id :: rest, g =>
    match g.node id with
    | .map _ => do
      let g ← merge fuel id g
      let own := g.entries id
      let (parts, g) ← mergeAll fuel rest g
      pure (own :: parts, g)
    | _ => .error .malformed

end

/-- Lets a mapping take over what it asks for. Each mapping that is entered on the way has lost a merge
sign before, and on each of these levels no more steps are taken than the graph has places. -/
def merged (g : Graph) (id : NodeId) : Except DocumentError Graph :=
  merge ((g.size + 4) * (g.size + 4)) id g

end Graph

end Wording.Plain.Document
