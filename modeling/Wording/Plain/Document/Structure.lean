import Wording.Plain.Document.Graph
import Wording.Plain.Document.Token

/-!
The structure of a document: its graph, built from its tokens. Brackets and indentation give the same
nodes. An anchor names a node, and names it once; from there on, inside the node too, an alias leads to it.
-/

set_option autoImplicit false

namespace Wording.Plain.Document

/-- What is left to read, the graph so far, the nodes that anchors name, and the number of collections
around the place that is read. -/
structure Building where
  reading : Reading
  graph : Graph
  anchors : List (Text × NodeId)
  depth : Nat

/-- The most collections that can stand in one another. -/
def greatestDepth : Nat := 487

/-- A step of building a graph. -/
abbrev Build := StateT Building (Except DocumentError)

namespace Build

def next? : Build (Option Token) := do
  let b ← get
  let reading ← b.reading.ready
  set { b with reading := reading }
  pure reading.tokens.head?

def skip : Build Unit := modify fun b => { b with reading := b.reading.drop }

def isAt (tokens : List Token) : Build Bool := do
  pure ((← next?).any tokens.contains)

def add (anchor : Option Text) (n : Node) : Build NodeId := do
  let b ← get
  let (id, graph) := b.graph.add n
  let named := (anchor.map fun name => (name, id)).toList
  set { b with graph := graph, anchors := named ++ b.anchors }
  pure id

def put (id : NodeId) (n : Node) : Build Unit := modify fun b => { b with graph := b.graph.put id n }

def named? (name : Text) : Build (Option NodeId) := do
  pure (((← get).anchors.find? fun a => a.1 = name).map (·.2))

def inside {α : Type} (content : Build α) : Build α := do
  if greatestDepth ≤ (← get).depth then throw .tooDeep
  modify fun b => { b with depth := b.depth + 1 }
  let found ← content
  modify fun b => { b with depth := b.depth - 1 }
  pure found

/-- Adds a list, whose items may lead back to it. -/
def addList (anchor : Option Text) (items : Build (List NodeId)) : Build NodeId := do
  let id ← add anchor (.list [])
  put id (.list (← inside items))
  pure id

/-- Adds a mapping, whose entries may lead back to it. -/
def addMap (anchor : Option Text) (entries : Build (List (NodeId × NodeId))) : Build NodeId := do
  let id ← add anchor (.map [])
  put id (.map (← inside entries))
  pure id

end Build

/-- The tokens behind which a node is left out in a block, of a key or a value. -/
def blockStops : List Token := [.key, .value, .blockEnd]

/-- The place where a node is expected. -/
inductive Place where
  /-- Between brackets. -/
  | flow
  /-- In a block. -/
  | block
  /-- In a block behind a key, where a list needs no further indentation. -/
  | blockEntry
deriving DecidableEq

mutual

def readNode : Nat → Place → Build NodeId
  | 0, _ => throw .malformed
  | fuel + 1, place => do
    match ← Build.next? with
    | some (.alias name) =>
      Build.skip
      match ← Build.named? name with
      | some id => pure id
      | none => throw .malformed
    | some (.anchor name) =>
      Build.skip
      let _ ← Build.next?
      match ← Build.named? name with
      | some _ => throw .malformed
      | none => readContent fuel place (some name)
    | _ => readContent fuel place none

/-- Reads a node behind its anchor. A node with an anchor may be left out. -/
def readContent : Nat → Place → Option Text → Build NodeId
  | 0, _, _ => throw .malformed
  | fuel + 1, place, anchor => do
    match ← Build.next?, place with
    | some .blockEntry, .blockEntry => Build.addList anchor (readEntries fuel false)
    | some (.scalar t plain), _ =>
      Build.skip
      Build.add anchor (.scalar t plain)
    | some (.halves codes), _ =>
      Build.skip
      Build.add anchor (.halves codes)
    | some .flowSequenceStart, _ =>
      Build.addList anchor (do Build.skip; readFlowItems fuel true)
    | some .flowMappingStart, _ =>
      Build.addMap anchor (do Build.skip; readFlowEntries fuel true)
    | token, place =>
      if token = some .blockSequenceStart && place ≠ .flow then
        Build.addList anchor (do Build.skip; readEntries fuel true)
      else if token = some .blockMappingStart && place ≠ .flow then
        Build.addMap anchor (do Build.skip; readBlockEntries fuel)
      else if anchor.isSome then Build.add anchor .absent
      else throw .malformed

/-- Reads the entries of a list in a block; an indented list ends with its indentation. -/
def readEntries : Nat → Bool → Build (List NodeId)
  | 0, _ => throw .malformed
  | fuel + 1, indented => do
    if ← Build.isAt [.blockEntry] then
      Build.skip
      let stops := if indented then [Token.blockEntry, .blockEnd] else .blockEntry :: blockStops
      let item ← readOptional fuel .block stops
      pure (item :: (← readEntries fuel indented))
    else if !indented then pure []
    else if ← Build.isAt [.blockEnd] then
      Build.skip
      pure []
    else throw .malformed

def readBlockEntries : Nat → Build (List (NodeId × NodeId))
  | 0 => throw .malformed
  | fuel + 1 => do
    if ← Build.isAt [.key] then
      Build.skip
      let key ← readOptional fuel .blockEntry blockStops
      let value ← readValue fuel .blockEntry blockStops
      pure ((key, value) :: (← readBlockEntries fuel))
    else if ← Build.isAt [.blockEnd] then
      Build.skip
      pure []
    else throw .malformed

/-- Reads a node that is left out before some tokens. -/
def readOptional : Nat → Place → List Token → Build NodeId
  | 0, _, _ => throw .malformed
  | fuel + 1, place, stops => do
    if ← Build.isAt stops then Build.add none .absent else readNode fuel place

/-- Reads a value behind its mark; without the mark it is left out. -/
def readValue : Nat → Place → List Token → Build NodeId
  | 0, _, _ => throw .malformed
  | fuel + 1, place, stops => do
    if ← Build.isAt [.value] then
      Build.skip
      readOptional fuel place stops
    else Build.add none .absent

/-- Reads a comma between two items in brackets. -/
def readComma (first : Bool) : Build Unit := do
  if first then pure ()
  else if ← Build.isAt [.flowEntry] then Build.skip
  else throw .malformed

/-- Reads the items of a list between brackets. An item with a key is a mapping of one entry. -/
def readFlowItems : Nat → Bool → Build (List NodeId)
  | 0, _ => throw .malformed
  | fuel + 1, first => do
    if ← Build.isAt [.flowSequenceEnd] then
      Build.skip
      pure []
    else
      readComma first
      if ← Build.isAt [.key] then
        let item ← Build.addMap none do
          Build.skip
          let key ← readOptional fuel .flow [.value, .flowEntry, .flowSequenceEnd]
          let value ← readValue fuel .flow [.flowEntry, .flowSequenceEnd]
          pure [(key, value)]
        pure (item :: (← readFlowItems fuel false))
      else if ← Build.isAt [.flowSequenceEnd] then
        Build.skip
        pure []
      else
        let item ← readNode fuel .flow
        pure (item :: (← readFlowItems fuel false))

/-- Reads the entries of a mapping between brackets. -/
def readFlowEntries : Nat → Bool → Build (List (NodeId × NodeId))
  | 0, _ => throw .malformed
  | fuel + 1, first => do
    if ← Build.isAt [.flowMappingEnd] then
      Build.skip
      pure []
    else
      readComma first
      if ← Build.isAt [.key] then
        Build.skip
        let key ← readOptional fuel .flow [.value, .flowEntry, .flowMappingEnd]
        let value ← readValue fuel .flow [.flowEntry, .flowMappingEnd]
        pure ((key, value) :: (← readFlowEntries fuel false))
      else if ← Build.isAt [.flowMappingEnd] then
        Build.skip
        pure []
      else
        let key ← readNode fuel .flow
        let value ← Build.add none .absent
        pure ((key, value) :: (← readFlowEntries fuel false))

end

/-- Reads the markers behind a document up to the end of the text. -/
def readEnd : Nat → Build Unit
  | 0 => throw .malformed
  | fuel + 1 => do
    match ← Build.next? with
    | none => pure ()
    | some .documentEnd =>
      Build.skip
      readEnd fuel
    | some _ => throw .malformed

/-- Reads a text with one document or none. A marker may stand before the document. -/
def readDocument (fuel : Nat) : Build (Option NodeId) := do
  match ← Build.next? with
  | none => pure none
  | some first =>
    let marked := first = .documentStart
    if marked then Build.skip
    let behind ← Build.next?
    let root ←
      if marked && (behind.all [Token.documentStart, .documentEnd].contains) then Build.add none .absent
      else readNode fuel .block
    readEnd fuel
    pure (some root)

/-- The graph of a text with one document, and the number of its outermost node. A text without a document
has none. No character gives more than a few tokens, and no token takes more than a few steps. -/
def graphOf (t : Text) : Except DocumentError (Graph × Option NodeId) := do
  let reading ← Reading.ofText t
  let (root, b) ← (readDocument (16 * t.length + 64)).run ⟨reading, .empty, [], 0⟩
  pure (b.graph, root)

end Wording.Plain.Document
