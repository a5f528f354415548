import Wording.Text.Basic

/-!
The graph of a document. A node is known by its number, so that an alias leads to the very node that its
anchor names, and a collection can hold itself.
-/

set_option autoImplicit false

namespace Wording.Plain.Document

/-- The number of a node. -/
abbrev NodeId := Nat

/-- A node of a document: a scalar, whose code points can be halves of characters, or a collection of other
nodes. -/
inductive Node where
  | scalar (text : Text) (plain : Bool)
  | halves (codes : List Nat)
  | list (items : List NodeId)
  | map (entries : List (NodeId × NodeId))
deriving DecidableEq, Repr

namespace Node

/-- The node for what is left out. -/
def absent : Node := .scalar [] true

/-- Whether a node as a key says that entries are taken over. -/
def isMergeSign (n : Node) : Bool := n = .scalar ['<', '<'] true

/-- Whether a node is the sign that means a text as a key and nothing elsewhere. -/
def isValueSign (n : Node) : Bool := n = .scalar ['='] true

def isCollection : Node → Bool
  | .scalar _ _ => false
  | .halves _ => false
  | .list _ => true
  | .map _ => true

def size : Node → Nat
  | .scalar _ _ => 0
  | .halves _ => 0
  | .list items => items.length
  | .map entries => entries.length

end Node

/-- The nodes of a document by their numbers. -/
structure Graph where
  nodes : Array Node
deriving DecidableEq, Repr

namespace Graph

def empty : Graph := ⟨#[]⟩

def node (g : Graph) (id : NodeId) : Node := g.nodes[id]?.getD .absent

def add (g : Graph) (n : Node) : NodeId × Graph := (g.nodes.size, ⟨g.nodes.push n⟩)

def put (g : Graph) (id : NodeId) (n : Node) : Graph := ⟨g.nodes.setIfInBounds id n⟩

def items (g : Graph) (id : NodeId) : List NodeId :=
  match g.node id with
  | .list items => items
  | _ => []

def entries (g : Graph) (id : NodeId) : List (NodeId × NodeId) :=
  match g.node id with
  | .map entries => entries
  | _ => []

/-- How many nodes there are, counted once more for each place that names one. -/
def size (g : Graph) : Nat := g.nodes.size + (g.nodes.toList.map Node.size).foldr (· + ·) 0

end Graph

end Wording.Plain.Document
