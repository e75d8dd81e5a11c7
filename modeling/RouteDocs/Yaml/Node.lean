import RouteDocs.Yaml.Tag

/-!
The nodes of a document. An alias stands for the node of its anchor, which may be around it, so a document is a graph:
its nodes have numbers, and a collection holds the numbers of what is in it.
-/

namespace RouteDocs.Yaml

/-- the number of a node -/
abbrev NodeId := Nat

/-- what a node is made of -/
inductive Content where
  | scalar (text : String)
  | sequence (items : List NodeId)
  | mapping (entries : List (NodeId × NodeId))
deriving DecidableEq, Inhabited

structure Node where
  tag : Tag
  content : Content
deriving DecidableEq

/-- the node where nothing is written -/
def Node.blank : Node := ⟨.null, .scalar ""⟩

instance : Inhabited Node := ⟨.blank⟩

/-- the nodes of a document by their numbers -/
structure Graph where
  nodes : Array Node

namespace Graph

def empty : Graph := ⟨#[]⟩

def size (g : Graph) : Nat := g.nodes.size

def get (g : Graph) (id : NodeId) : Node := g.nodes[id]?.getD .blank

def push (g : Graph) (n : Node) : Graph := ⟨g.nodes.push n⟩

def set (g : Graph) (id : NodeId) (n : Node) : Graph := ⟨g.nodes.setIfInBounds id n⟩

def tag (g : Graph) (id : NodeId) : Tag := (g.get id).tag

def items? (g : Graph) (id : NodeId) : Option (List NodeId) :=
  match (g.get id).content with
  | .sequence items => some items
  | _ => none

def entries? (g : Graph) (id : NodeId) : Option (List (NodeId × NodeId)) :=
  match (g.get id).content with
  | .mapping entries => some entries
  | _ => none

def setEntries (g : Graph) (id : NodeId) (entries : List (NodeId × NodeId)) : Graph :=
  g.set id { g.get id with content := .mapping entries }

def setTag (g : Graph) (id : NodeId) (t : Tag) : Graph := g.set id { g.get id with tag := t }

def entryCount (g : Graph) : Nat :=
  g.nodes.toList.foldl (fun n node => match node.content with
    | .mapping entries => n + entries.length
    | _ => n) 0

end Graph

end RouteDocs.Yaml
