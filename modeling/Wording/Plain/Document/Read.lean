import Wording.Plain.Document.Merge
import Wording.Plain.Document.Plain
import Wording.Plain.Document.Structure

/-!
The value of a document. Its nodes are visited level by level, from the outermost one on: scalars at once,
collections in their turn, where a mapping first takes over what it asks for. The first fault on this way
is the fault of the document; without one, its value is that of the outermost node.
-/

set_option autoImplicit false

namespace Wording.Plain.Document

/-- The value of a scalar. The signs that have a meaning as keys have no value. -/
def scalarValue (t : Text) (plain : Bool) : Except DocumentError Value :=
  if plain then do
    match ← meaningOfPlain t with
    | .value v => pure v
    | _ => throw .malformed
  else .ok (.text t)

/-- The collections that are met, and those of them that wait for their turn. -/
structure Visit where
  met : List NodeId
  waiting : List NodeId

namespace Visit

/-- Meets a node: a scalar must have a value, and a collection waits for its turn if it is new. -/
def meet (g : Graph) (v : Visit) (id : NodeId) : Except DocumentError Visit :=
  match g.node id with
  | .scalar t plain => (scalarValue t plain).map fun _ => v
  | .halves _ => .ok v
  | _ => .ok (if v.met.contains id then v else ⟨id :: v.met, v.waiting ++ [id]⟩)

/-- Meets the key of an entry, which must be a scalar, and its value. -/
def meetEntry (g : Graph) (v : Visit) (entry : NodeId × NodeId) : Except DocumentError Visit := do
  if (g.node entry.1).isCollection then throw .malformed
  (← v.meet g entry.1).meet g entry.2

/-- Visits the collections that wait and all that they lead to, and answers the graph in which all mappings
have taken over what they ask for. No collection waits twice. -/
def run : Nat → Graph → Visit → Except DocumentError Graph
  | 0, g, _ => .ok g
  | fuel + 1, g, v =>
    match v.waiting with
    | [] => .ok g
    | id :: rest => do
      let v := { v with waiting := rest }
      match g.node id with
      | .map _ =>
        let g ← g.merged id
        run fuel g (← (g.entries id).foldlM (meetEntry g) v)
      | _ => run fuel g (← (g.items id).foldlM (meet g) v)

end Visit

/-- The value of a node inside collections; one of these stands for itself by its label. -/
def valueOfNode : Nat → Graph → List NodeId → NodeId → Except DocumentError Value
  | 0, _, _, _ => .error .malformed
  | fuel + 1, g, around, id =>
    if around.contains id then .ok (.same id)
    else
      match g.node id with
      | .scalar t plain => scalarValue t plain
      | .halves codes => .ok (.halves codes)
      | .list items => do
        pure (Value.withLabel id (.list (← items.mapM (valueOfNode fuel g (id :: around)))))
      | .map entries => do
        let own ← entries.mapM fun (key, value) => do
          let k ← valueOfNode fuel g (id :: around) key
          let v ← valueOfNode fuel g (id :: around) value
          pure (k, v)
        pure (Value.withLabel id (.map (own.foldl (fun es e => Value.insert es e.1 e.2) [])))

/-- The value of a text with one document; a text without a document has the value of nothing. -/
def read (t : Text) : Except DocumentError Value := do
  match ← graphOf t with
  | (_, none) => pure .null
  | (g, some root) =>
    let fuel := g.nodes.size + 2
    let start ← Visit.meet g ⟨[], []⟩ root
    let g ← Visit.run fuel g start
    valueOfNode fuel g [] root

end Wording.Plain.Document
