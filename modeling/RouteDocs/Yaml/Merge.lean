import RouteDocs.Yaml.Cursor
import RouteDocs.Yaml.Node

/-!
Merging: a mapping takes in the entries of the mappings that are given for its merge keys. They come before its own
entries, so that those prevail; and of several mappings in a sequence the first one prevails.

Main definition: `Graph.flatten`.
-/

namespace RouteDocs.Yaml.Graph

/-- the entries of a node, none if it is no mapping -/
def entries (g : Graph) (id : NodeId) : List (NodeId × NodeId) := (g.entries? id).getD []

/-- the value of the first merge key among entries, and the other entries -/
def takeMerge? (g : Graph) : List (NodeId × NodeId) → Option (NodeId × List (NodeId × NodeId))
  | [] => none
  | (k, v) :: rest =>
    if g.tag k = .merge then some (v, rest)
    else (g.takeMerge? rest).map fun (w, others) => (w, (k, v) :: others)

/-- put entries before those of a mapping without merge keys; a key for its value is a text like others from now on -/
def settle (g : Graph) (id : NodeId) (merged : List (NodeId × NodeId)) : Graph :=
  let own := g.entries id
  let g := own.foldl (fun g e => if g.tag e.1 = .value then g.setTag e.1 .str else g) g
  if merged.isEmpty then g else g.setEntries id (merged ++ own)

/-- merge into a mapping what its merge keys ask for, after what has been merged into it already; each step takes a
merge key away -/
def flattenFrom : (fuel : Nat) → Graph → NodeId → (merged : List (NodeId × NodeId)) → Except Fault Graph
  | 0, g, _, _ => .ok g
  | fuel + 1, g, id, merged =>
    match g.takeMerge? (g.entries id) with
    | none => .ok (g.settle id merged)
    | some (source, others) => do
      let g := g.setEntries id others
      match (g.get source).content with
      | .mapping _ =>
        let g ← flattenFrom fuel g source []
        flattenFrom fuel g id (merged ++ g.entries source)
      | .sequence items =>
        let (g, more) ← items.foldlM (fun (g, more) item => do
          if (g.entries? item).isNone then throw .malformed
          let g ← flattenFrom fuel g item []
          return (g, g.entries item ++ more)) (g, [])
        flattenFrom fuel g id (merged ++ more)
      | .scalar _ => throw .malformed

/-- merge into a mapping what its merge keys ask for -/
def flatten (g : Graph) (id : NodeId) : Except Fault Graph := flattenFrom (g.entryCount + 1) g id []

end RouteDocs.Yaml.Graph
