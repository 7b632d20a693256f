/-
  FieldRules/Yaml/Building.lean
  =============================
  **What is made of the nodes of a YAML document.**

  One thing is made of each node, however often it is met.  A collection is empty
  at first and is filled later, when everything that was met before it has been
  filled: so the outer collections come first, and of two faults in a document the
  one at the lower level is found last.  As a key, though, a collection is refused
  at once.
-/
import FieldRules.Value.Shown
import FieldRules.Yaml.Merge
import FieldRules.Yaml.ScalarValue
import FieldRules.Yaml.Time

namespace FieldRules.Yaml

/-! ### Scalars -/

/-- What a scalar is the same as when it is the key of a mapping. -/
inductive KeyIdentity where
  /-- All scalars of equal value. -/
  | equal (value : Value)
  /-- All times with a known offset at the same instant. -/
  | instant (microseconds : Int)
  /-- The missing number, where it is written as such. -/
  | missingNumber
  /-- The node alone: a missing number that came out of reading digits. -/
  | node (id : NodeId)
deriving Repr

def KeyIdentity.same : KeyIdentity → KeyIdentity → Bool
  | equal first, equal second => first.sameKey second
  | instant first, instant second => first == second
  | missingNumber, missingNumber => true
  | node first, node second => first == second
  | _, _ => false

/-- The text of a scalar; of a mapping, the text of its value as a whole. -/
def scalarText (graph : Graph) : Nat → NodeId → Except Fault String
  | 0, _ => .error .tooDeep
  | fuel + 1, id =>
    match (graph.node id).content with
    | .scalar text => .ok text
    | .sequence _ => .error .malformed
    | .mapping entries =>
      match entries.find? fun entry => (graph.node entry.1).tag == .defaultValue with
      | some (_, value) => scalarText graph fuel value
      | none => .error .malformed

def Graph.isMapping (graph : Graph) (id : NodeId) : Bool := (graph.entries? id).isSome

def scalarValue (graph : Graph) (id : NodeId) : Except Fault (Value × KeyIdentity) := do
  let text := scalarText graph (graph.size + 1) id
  let byValue (value : Value) : Value × KeyIdentity := (value, .equal value)
  match (graph.node id).tag with
  | .null => do
    discard text
    return byValue .none
  | .truth => return byValue (.bool (← readTruth (← text)))
  | .integer => return byValue (.integer (← readInteger (← text)))
  | .binary => return byValue (← readBytes (← text))
  | .text => return byValue (.text (← text))
  | .float => do
    let content ← text
    match ← readFloat content with
    | .nan =>
      return (.float .nan, if isMissingNumber content then .missingNumber else .node id)
    | number => return byValue (.float number)
  | .time => do
    let content ← text
    if graph.isMapping id then throw .timeIsMapping
    else
      let time ← readTime content
      match time.instant? with
      | some instant => return (time.value, .instant instant)
      | none => return byValue time.value
  | _ => throw .malformed

/-! ### Collections -/

/-- What is made of a node.  Collections refer to what is made of other nodes. -/
inductive Made where
  | scalar (value : Value) (key : KeyIdentity)
  | list (items : List NodeId)
  | mapping (entries : List (NodeId × NodeId))
  /-- A list of pairs. -/
  | pairs (entries : List (NodeId × NodeId))
  | set (members : List NodeId)
deriving Repr

def emptyCollection? : Tag → Option Made
  | .sequence => some (.list [])
  | .mapping => some (.mapping [])
  | .pairs => some (.pairs [])
  | .orderedMapping => some (.pairs [])
  | .set => some (.set [])
  | _ => none

/-- What has been made so far, and the collections that wait to be filled (latest first). -/
structure Building where
  graph : Graph
  made : Array (Option Made)
  waiting : List NodeId := []

abbrev BuildStep := StateT Building (Except Fault)

def setMade (id : NodeId) (made : Made) : BuildStep Unit :=
  modify fun s => { s with made := s.made.setIfInBounds id (some made) }

/-- Makes what a node stands for, if that has not been done; a collection has to wait
    to be filled. -/
def build (id : NodeId) : BuildStep Made := do
  let s ← get
  match s.made.getD id none with
  | some made => return made
  | none =>
    match emptyCollection? (s.graph.node id).tag with
    | some collection =>
      setMade id collection
      modify fun s => { s with waiting := id :: s.waiting }
      return collection
    | none =>
      let (value, key) ← scalarValue s.graph id
      let made := Made.scalar value key
      setMade id made
      return made

/-- An entry of a mapping, with what its key is the same as. -/
structure KeyedEntry where
  key : NodeId
  identity : KeyIdentity
  value : NodeId

/-- Sets a key of a mapping: a known key keeps its place and its first node. -/
def setEntry (entry : KeyedEntry) : List KeyedEntry → List KeyedEntry
  | [] => [entry]
  | known :: rest =>
    if known.identity.same entry.identity then { known with value := entry.value } :: rest
    else known :: setEntry entry rest

/-- Makes the keys and values of the entries of a mapping, of which the keys have
    to be scalars. -/
def buildEntries (entries : List (NodeId × NodeId)) : BuildStep (List (NodeId × NodeId)) := do
  let keyed ← entries.mapM fun (key, value) => do
    match ← build key with
    | .scalar _ identity =>
      discard (build value)
      return ({ key := key, identity := identity, value := value } : KeyedEntry)
    | _ => throw .malformed
  let table := keyed.foldl (fun table entry => setEntry entry table) []
  return table.map fun entry => (entry.key, entry.value)

def buildMapping (fuel : Nat) (id : NodeId) : BuildStep (List (NodeId × NodeId)) := do
  let s ← get
  if !s.graph.isMapping id then throw .malformed
  else
    let graph ← s.graph.mergeInto fuel [] id
    set { s with graph := graph }
    buildEntries ((graph.entries? id).getD [])

def itemsOf (id : NodeId) : BuildStep (List NodeId) := do
  match ((← get).graph.node id).content with
  | .sequence items => return items
  | _ => throw .malformed

def buildPair (id : NodeId) : BuildStep (NodeId × NodeId) := do
  match (← get).graph.entries? id with
  | some [(key, value)] =>
    discard (build key)
    discard (build value)
    return (key, value)
  | _ => throw .malformed

def fill (fuel : Nat) (id : NodeId) : BuildStep Unit := do
  match (← get).made.getD id none with
  | some (.list _) =>
    let items ← itemsOf id
    items.forM fun item => discard (build item)
    setMade id (.list items)
  | some (.mapping _) => setMade id (.mapping (← buildMapping fuel id))
  | some (.set _) => setMade id (.set ((← buildMapping fuel id).map (·.1)))
  | some (.pairs _) => setMade id (.pairs (← (← itemsOf id).mapM buildPair))
  | _ => return ()

/-- Fills the collections that wait, and then those that have come up meanwhile. -/
def fillWaiting (mergeFuel : Nat) : Nat → BuildStep Unit
  | 0 => return ()
  | fuel + 1 => do
    match (← get).waiting with
    | [] => return ()
    | latest =>
      modify fun s => { s with waiting := [] }
      latest.reverse.forM (fill mergeFuel)
      fillWaiting mergeFuel fuel

/-- Makes what a document stands for: of each node that is met, what it stands for. -/
def buildAll (graph : Graph) (root : NodeId) : Except Fault (Array (Option Made)) := do
  let start : Building := { graph := graph, made := Array.replicate graph.size none }
  let steps : BuildStep Unit := do
    discard (build root)
    fillWaiting (3 * graph.mergeCount + 4) (graph.size + 1)
  let (_, final) ← steps.run start
  return final.made

end FieldRules.Yaml
