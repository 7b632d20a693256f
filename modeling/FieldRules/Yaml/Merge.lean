/-
  FieldRules/Yaml/Merge.lean
  ==========================
  **Mappings that merge others in.**

  An entry with the merge key gives one mapping or a sequence of mappings, the
  entries of which come before those of the mapping itself.  Of several mappings
  in a sequence the first one comes last, so that it has the last word.  Merging
  changes the nodes: the merge key is gone, and the merged entries are there, also
  for whoever else meets the node.
-/
import FieldRules.Yaml.Graph
import FieldRules.Yaml.Token

namespace FieldRules.Yaml

namespace Graph

def isMergeKey (graph : Graph) (id : NodeId) : Bool := (graph.node id).tag == .merge

def takeMerge? (graph : Graph) (id : NodeId) : Option (NodeId × Graph) :=
  match graph.entries? id with
  | none => none
  | some entries =>
    match entries.dropWhile fun entry => !graph.isMergeKey entry.1 with
    | [] => none
    | (_, source) :: rest =>
      let before := entries.takeWhile fun entry => !graph.isMergeKey entry.1
      some (source, graph.set id { graph.node id with content := .mapping (before ++ rest) })

/-- Lets a key that stands for the value of its mapping as a whole be a text. -/
def asTextKey (graph : Graph) (id : NodeId) : Graph :=
  if (graph.node id).tag == .defaultValue then
    graph.set id { graph.node id with tag := .text }
  else graph

/-- Puts entries before those of a mapping that has no merge key any more. -/
def finishMerge (graph : Graph) (id : NodeId) (merged : List (NodeId × NodeId)) : Graph :=
  match graph.entries? id with
  | none => graph
  | some entries =>
    let textual := entries.foldl (fun graph entry => graph.asTextKey entry.1) graph
    textual.set id { textual.node id with content := .mapping (merged ++ entries) }

mutual

/-- Merges into a mapping what its merge keys ask for, after the entries that
    were merged before. -/
def mergeInto : Nat → List (NodeId × NodeId) → NodeId → Graph → Except Fault Graph
  | 0, _, _, _ => .error .malformed
  | fuel + 1, merged, id, graph =>
    match graph.takeMerge? id with
    | none => .ok (graph.finishMerge id merged)
    | some (source, graph) => do
      let (entries, graph) ← mergedFrom fuel source graph
      mergeInto fuel (merged ++ entries) id graph

def mergedFrom : Nat → NodeId → Graph → Except Fault (List (NodeId × NodeId) × Graph)
  | 0, _, _ => .error .malformed
  | fuel + 1, source, graph =>
    match (graph.node source).content with
    | .scalar _ => .error .malformed
    | .mapping _ => mergedMapping fuel source graph
    | .sequence items => do
      let (parts, graph) ← items.foldlM
        (fun (parts, graph) item => do
          let (entries, graph) ← mergedMapping fuel item graph
          return (entries :: parts, graph)) ([], graph)
      return (parts.flatten, graph)

def mergedMapping : Nat → NodeId → Graph → Except Fault (List (NodeId × NodeId) × Graph)
  | 0, _, _ => .error .malformed
  | fuel + 1, id, graph =>
    match (graph.node id).content with
    | .mapping _ => do
      let graph ← mergeInto fuel [] id graph
      return ((graph.entries? id).getD [], graph)
    | _ => .error .malformed

end

def mergeCount (graph : Graph) : Nat :=
  graph.nodes.foldl
    (fun count node =>
      match node.content with
      | .mapping entries => count + (entries.filter fun entry => graph.isMergeKey entry.1).length
      | _ => count) 0

end Graph

end FieldRules.Yaml
