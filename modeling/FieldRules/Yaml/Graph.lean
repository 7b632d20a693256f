/-
  FieldRules/Yaml/Graph.lean
  ==========================
  **The nodes of a YAML document.**

  An alias stands for the very node with its anchor, so the nodes of a document
  form a graph and not a tree: one node may stand in many places, also inside of
  itself.  A node is therefore known by its number, and the collections hold the
  numbers of their parts.
-/
import FieldRules.Yaml.Tag

namespace FieldRules.Yaml

abbrev NodeId := Nat

/-- What a node consists of. -/
inductive NodeContent where
  | scalar (text : String)
  | sequence (items : List NodeId)
  | mapping (entries : List (NodeId × NodeId))
deriving DecidableEq, Repr

/-- A node: what it denotes and what it consists of. -/
structure Node where
  tag : Tag
  content : NodeContent
deriving DecidableEq, Repr

def Node.empty : Node := { tag := .null, content := .scalar "" }

/-- The nodes of a document, in the order of their numbers. -/
structure Graph where
  nodes : Array Node := #[]

namespace Graph

def size (graph : Graph) : Nat := graph.nodes.size

def node (graph : Graph) (id : NodeId) : Node := graph.nodes.getD id .empty

def add (graph : Graph) (node : Node) : Graph := { nodes := graph.nodes.push node }

def set (graph : Graph) (id : NodeId) (node : Node) : Graph :=
  { nodes := graph.nodes.setIfInBounds id node }

def entries? (graph : Graph) (id : NodeId) : Option (List (NodeId × NodeId)) :=
  match (graph.node id).content with
  | .mapping entries => some entries
  | _ => none

end Graph

end FieldRules.Yaml
