import RouteDocs.Text.Base64
import RouteDocs.Yaml.Document
import RouteDocs.Yaml.Merge
import RouteDocs.Yaml.Number
import RouteDocs.Yaml.Value

/-!
Evaluation of the nodes of a document. A scalar has its value at once. A collection that is met is put aside, and what
is in it is looked at after all collections that were met before. So each node is evaluated once, also in a collection
that holds itself, and of several faults the one that shows first is the one on this way.

Main definition: `Value.ofText`.
-/

namespace RouteDocs.Yaml

/-! ## Scalars -/

/-- the text of a scalar, or of the value that a mapping gives for itself -/
def Graph.textFrom (g : Graph) : (fuel : Nat) → NodeId → Except Fault String
  | 0, _ => .error .malformed
  | fuel + 1, id =>
    match (g.get id).content with
    | .scalar text => .ok text
    | .sequence _ => .error .malformed
    | .mapping entries => match entries.find? fun e => g.tag e.1 = .value with
      | none => .error .malformed
      | some e => g.textFrom fuel e.2

def Graph.text (g : Graph) (id : NodeId) : Except Fault String := g.textFrom (g.size + 1) id

namespace Value

def ofWord (text : String) : Except Fault Value :=
  let word := String.ofList (Text.lower text.toList)
  if word ∈ yesWords then .ok (bool true)
  else if word ∈ noWords then .ok (bool false)
  else .error (.unknownWord word)

def ofLetters (text : String) : Except Fault Value :=
  match Text.Base64.decode? text.toList with
  | some b => .ok (bytes b)
  | none => .error .malformed

def ofDate : Content → Except Fault Value
  | .scalar text => match timestamp? (Tag.dropLineEnd text.toList) with
    | none => .error .notDate
    | some t => if t.isValid then .ok date else .error .badScalar
  | _ => .error .dateOfMapping

end Value

def Tag.isCollection : Tag → Bool
  | .seq | .map | .set | .pairs => true
  | _ => false

/-- the value of a node; of a collection only that it is one -/
def Graph.value (g : Graph) (id : NodeId) : Except Fault Value :=
  match g.tag id with
  | .null => do
    let _ ← g.text id
    return .null
  | .bool => do Value.ofWord (← g.text id)
  | .int => do return .int (← Number.integer (← g.text id).toList)
  | .float => do return .real (← Number.isZero (← g.text id).toList)
  | .timestamp => do
    let _ ← g.text id
    Value.ofDate (g.get id).content
  | .str => do return .str (← g.text id)
  | .binary => do Value.ofLetters (← g.text id)
  | .seq | .map | .set | .pairs => return .collection
  | .merge | .value | .other _ => throw .malformed

/-! ## The way through a document -/

namespace Evaluation

structure State where
  graph : Graph
  /-- the values so far; of a collection only that it is one -/
  values : Array (Option Value)
  /-- the collections that have been put aside, the last one first -/
  waiting : List NodeId

abbrev Step (α : Type) := StateT State (Except Fault) α

def fail {α : Type} : Step α := fun _ => .error .malformed

/-- evaluate a node, unless that has been done; a collection is put aside -/
def visit (id : NodeId) : Step Unit := do
  let s ← get
  if (s.values[id]?.getD none).isNone then
    let v ← s.graph.value id
    let waiting := if (s.graph.tag id).isCollection then id :: s.waiting else s.waiting
    set { s with values := s.values.setIfInBounds id (some v), waiting }

/-- evaluate the key and the value of an entry; a collection can not be a key -/
def visitEntry (e : NodeId × NodeId) : Step Unit := do
  visit e.1
  if ((← get).graph.tag e.1).isCollection then fail
  visit e.2

def expandMapping (id : NodeId) : Step Unit := do
  if ((← get).graph.entries? id).isNone then fail
  let g ← (← get).graph.flatten id
  modify fun s => { s with graph := g }
  (g.entries id).forM visitEntry

def expandPair (id : NodeId) : Step Unit := do
  match (← get).graph.entries? id with
  | some [(k, v)] =>
    visit k
    visit v
  | _ => fail

def expand (id : NodeId) : Step Unit := do
  let g := (← get).graph
  match g.tag id, g.items? id with
  | .seq, some items => items.forM visit
  | .pairs, some items => items.forM expandPair
  | .map, _ | .set, _ => expandMapping id
  | _, _ => fail

/-- look at what is in all collections that were put aside, and in those that come up meanwhile -/
def expandAll : (fuel : Nat) → Step Unit
  | 0 => return
  | fuel + 1 => do
    let waiting := (← get).waiting
    if !waiting.isEmpty then
      modify fun s => { s with waiting := [] }
      waiting.reverse.forM expand
      expandAll fuel

def run (g : Graph) (root : NodeId) : Except Fault State := do
  let (_, s) ← (do visit root; expandAll (g.size + 1)).run ⟨g, .replicate g.size none, []⟩
  return s

/-- the value of a node, with what is in it down to a depth -/
def State.value (s : State) : (depth : Nat) → NodeId → Value
  | 0, id => (s.values[id]?.getD none).getD .collection
  | depth + 1, id =>
    let entries : List (Value × Value) :=
      Value.ofEntries ((s.graph.entries id).map fun e => (s.value depth e.1, s.value depth e.2))
    let items := (s.graph.items? id).getD []
    match s.graph.tag id with
    | .seq => .list (items.map fun i => s.value depth i)
    | .pairs => .list (items.map fun _ => .collection)
    | .map => .map entries
    | .set => .set (entries.map Prod.fst)
    | _ => s.value 0 id

end Evaluation

/-- The value of a text, with what is in it two levels deep: names, and lists and maps for them. A text without a
document says nothing. -/
def Value.ofText (text : List Char) : Except Fault Value := do
  match ← Graph.ofText text with
  | (_, none) => return .null
  | (g, some root) => return (← Evaluation.run g root).value 2 root

end RouteDocs.Yaml
