import Wording.Value.Basic

/-!
Values as the reader of documents makes them: which keys are the same, and which collections need a label since they
hold themselves.
-/

set_option autoImplicit false

namespace Wording.Value

mutual

/-- The labels that a value holds without being inside their collections. -/
def labels : Value → List Nat
  | .list items => labelsOfItems items
  | .tuple items => labelsOfItems items
  | .set items => labelsOfItems items
  | .map entries => labelsOfEntries entries
  | .labelled label v => (labels v).filter (· ≠ label)
  | .same label => [label]
  | _ => []

def labelsOfItems : List Value → List Nat
  | [] => []
  | v :: rest => labels v ++ labelsOfItems rest

def labelsOfEntries : List (Value × Value) → List Nat
  | [] => []
  | (k, v) :: rest => labels k ++ labels v ++ labelsOfEntries rest

end

/-- Gives a collection its label if it holds itself or what it stands in, and so itself again. -/
def withLabel (label : Nat) (v : Value) : Value := if labels v = [] then v else .labelled label v

def quantity? : Value → Option Number.Quantity
  | .bool b => some (.whole (if b then 1 else 0))
  | .int n => some (.whole n)
  | .float x => some (.binary x)
  | _ => none

/-- Whether two values are one key: texts by their characters, numbers and truth values by their value. -/
def sameKey : Value → Value → Bool
  | .null, .null => true
  | .text s, .text t => s = t
  | .halves s, .halves t => s = t
  | a, b =>
    match a.quantity?, b.quantity? with
    | some x, some y =>
      match x.finite?, y.finite? with
      | some (n, d), some (n', d') => n * d' = n' * d
      | none, none => x = y
      | _, _ => false
    | _, _ => false

/-- Puts a value under a key: a key that is there keeps its place and takes the new value. -/
def insert (entries : List (Value × Value)) (key value : Value) : List (Value × Value) :=
  match entries with
  | [] => [(key, value)]
  | (k, v) :: rest =>
    if sameKey k key then (k, value) :: rest else (k, v) :: insert rest key value

end Wording.Value
