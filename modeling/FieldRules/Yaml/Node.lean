/-
  FieldRules/Yaml/Node.lean
  =========================
  **From the tokens of a YAML document to its nodes.**

  Nodes are numbered in the order in which they begin, so a collection has its
  number, and with it its anchor, before its parts are read.  An alias gives the
  number of the node with its anchor.
-/
import FieldRules.Yaml.Graph
import FieldRules.Yaml.Lexer

namespace FieldRules.Yaml

/-! ### The tokens ahead -/

/-- How many collections may stand inside of each other. -/
def maxDepth : Nat := 488

/-- What a reader of nodes knows: the tokens ahead, the fault that ends them,
    the names in full of the handles, the nodes so far, those with an anchor, and
    how many collections are around. -/
structure Composing where
  tokens : List Token
  fault : Option Fault
  handles : List (String × String) := []
  graph : Graph := {}
  anchors : List (String × NodeId) := []
  depth : Nat := 0

abbrev NodeStep := StateT Composing (Except Fault)

def peekToken : NodeStep Token := do
  let s ← get
  match s.tokens with
  | token :: _ => return token
  | [] => throw (s.fault.getD .malformed)

def dropToken : NodeStep Unit := modify fun s => { s with tokens := s.tokens.drop 1 }

def acceptToken (token : Token) : NodeStep Bool := do
  if (← peekToken) == token then
    dropToken
    return true
  else return false

def expectToken (token : Token) : NodeStep Unit := do
  if ← acceptToken token then return () else throw .malformed

def nextIsIn (tokens : List Token) : NodeStep Bool := return tokens.contains (← peekToken)

/-! ### Anchors and tags of a node -/

/-- The anchor and the written tag of a node. -/
structure Properties where
  anchor : Option String := none
  tag : Option String := none

def resolveTag (handle : Option String) (suffix : String) : NodeStep String := do
  match handle with
  | none => return suffix
  | some name =>
    match (← get).handles.lookup name with
    | some uri => return uri ++ suffix
    | none => throw .malformed

def readAnchorProperty : NodeStep (Option String) := do
  match ← peekToken with
  | .anchor name =>
    dropToken
    return some name
  | _ => return none

def readTagProperty : NodeStep (Option (Option String × String)) := do
  match ← peekToken with
  | .tag handle suffix =>
    dropToken
    return some (handle, suffix)
  | _ => return none

def readProperties : NodeStep Properties := do
  let first ← readAnchorProperty
  let tag ← readTagProperty
  let anchor ← if first.isNone && tag.isSome then readAnchorProperty else pure first
  let uri ←
    match tag with
    | some (handle, suffix) => some <$> resolveTag handle suffix
    | none => pure none
  match anchor with
  | some name =>
    let s ← get
    if (s.anchors.lookup name).isSome then throw .malformed
    else return { anchor := anchor, tag := uri }
  | none => return { anchor := anchor, tag := uri }

/-- The tag of a collection: the one that is written, or that of its kind. -/
def Properties.tagOr (properties : Properties) (kind : Tag) : Tag :=
  match properties.tag with
  | none => kind
  | some uri => if uri == "!" then kind else .ofUri uri

/-- The tag of a scalar: the one that is written, that of its form, or that of texts. -/
def Properties.scalarTag (properties : Properties) (content : String) (plain : Bool) : Tag :=
  match properties.tag with
  | none => if plain then plainTag content else .text
  | some uri => if uri == "!" then plainTag content else .ofUri uri

/-! ### Numbers of nodes -/

def addNode (node : Node) : NodeStep NodeId :=
  modifyGet fun s => (s.graph.size, { s with graph := s.graph.add node })

/-- Adds a node with given properties, which its anchor stands for from now on. -/
def beginNode (properties : Properties) (node : Node) : NodeStep NodeId := do
  let id ← addNode node
  match properties.anchor with
  | some name => modify fun s => { s with anchors := (name, id) :: s.anchors }
  | none => pure ()
  return id

def addScalar (properties : Properties) (text : String) (plain : Bool) : NodeStep NodeId :=
  beginNode properties { tag := properties.scalarTag text plain, content := .scalar text }

def beginCollection (properties : Properties) (node : Node) : NodeStep NodeId := do
  if maxDepth ≤ (← get).depth then throw .tooDeep
  else
    modify fun s => { s with depth := s.depth + 1 }
    beginNode properties node

def beginSequence (properties : Properties) : NodeStep NodeId :=
  beginCollection properties { tag := properties.tagOr .sequence, content := .sequence [] }

def beginMapping (properties : Properties) : NodeStep NodeId :=
  beginCollection properties { tag := properties.tagOr .mapping, content := .mapping [] }

def finishNode (id : NodeId) (content : NodeContent) : NodeStep NodeId := do
  modify fun s => { s with
    graph := s.graph.set id { s.graph.node id with content := content }
    depth := s.depth - 1 }
  return id

def resolveAlias (name : String) : NodeStep NodeId := do
  match (← get).anchors.lookup name with
  | some id => return id
  | none => throw .malformed

/-! ### Collections -/

mutual

/-- A node.  Block collections are read where they may stand, and so are the
    entries of a sequence that is not indented more than the key it belongs to. -/
def readNode : Nat → Bool → Bool → NodeStep NodeId
  | 0, _, _ => throw .malformed
  | fuel + 1, block, indentless => do
    match ← peekToken with
    | .alias name => do
      dropToken
      resolveAlias name
    | _ => do
      let properties ← readProperties
      let next ← peekToken
      match next with
      | .scalar content plain => do
        dropToken
        addScalar properties content plain
      | .flowSequenceStart => do
        dropToken
        let id ← beginSequence properties
        finishNode id (.sequence (← readFlowItems fuel true []))
      | .flowMappingStart => do
        dropToken
        let id ← beginMapping properties
        finishNode id (.mapping (← readFlowEntries fuel true []))
      | other => do
        if indentless && other == .blockEntry then
          let id ← beginSequence properties
          finishNode id (.sequence (← readIndentlessItems fuel []))
        else if block && other == .blockSequenceStart then
          dropToken
          let id ← beginSequence properties
          finishNode id (.sequence (← readBlockItems fuel []))
        else if block && other == .blockMappingStart then
          dropToken
          let id ← beginMapping properties
          finishNode id (.mapping (← readBlockEntries fuel []))
        else if properties.anchor.isSome || properties.tag.isSome then
          addScalar properties "" true
        else throw .malformed

def readNodeUnless : Nat → List Token → Bool → Bool → NodeStep NodeId
  | 0, _, _, _ => throw .malformed
  | fuel + 1, ends, block, indentless => do
    if ← nextIsIn ends then addNode .empty else readNode fuel block indentless

def readBlockItems : Nat → List NodeId → NodeStep (List NodeId)
  | 0, _ => throw .malformed
  | fuel + 1, found => do
    if ← acceptToken .blockEntry then
      let item ← readNodeUnless fuel [.blockEntry, .blockEnd] true false
      readBlockItems fuel (item :: found)
    else
      expectToken .blockEnd
      return found.reverse

def readIndentlessItems : Nat → List NodeId → NodeStep (List NodeId)
  | 0, _ => throw .malformed
  | fuel + 1, found => do
    if ← acceptToken .blockEntry then
      let item ← readNodeUnless fuel [.blockEntry, .key, .value, .blockEnd] true false
      readIndentlessItems fuel (item :: found)
    else return found.reverse

def readBlockEntries : Nat → List (NodeId × NodeId) → NodeStep (List (NodeId × NodeId))
  | 0, _ => throw .malformed
  | fuel + 1, found => do
    if ← acceptToken .key then
      let key ← readNodeUnless fuel [.key, .value, .blockEnd] true true
      let hasValue ← acceptToken .value
      let value ←
        if hasValue then readNodeUnless fuel [.key, .value, .blockEnd] true true
        else addNode .empty
      readBlockEntries fuel ((key, value) :: found)
    else
      expectToken .blockEnd
      return found.reverse

def readFlowItems : Nat → Bool → List NodeId → NodeStep (List NodeId)
  | 0, _, _ => throw .malformed
  | fuel + 1, first, found => do
    if ← acceptToken .flowSequenceEnd then return found.reverse
    else
      if first then pure () else expectToken .flowEntry
      if ← acceptToken .key then
        let key ← readNodeUnless fuel [.value, .flowEntry, .flowSequenceEnd] false false
        let hasValue ← acceptToken .value
        let value ←
          if hasValue then readNodeUnless fuel [.flowEntry, .flowSequenceEnd] false false
          else addNode .empty
        let pair ← addNode { tag := .mapping, content := .mapping [(key, value)] }
        readFlowItems fuel false (pair :: found)
      else
        if ← nextIsIn [.flowSequenceEnd] then readFlowItems fuel false found
        else
          let item ← readNode fuel false false
          readFlowItems fuel false (item :: found)

def readFlowEntries : Nat → Bool → List (NodeId × NodeId) → NodeStep (List (NodeId × NodeId))
  | 0, _, _ => throw .malformed
  | fuel + 1, first, found => do
    if ← acceptToken .flowMappingEnd then return found.reverse
    else
      if first then pure () else expectToken .flowEntry
      if ← acceptToken .key then
        let key ← readNodeUnless fuel [.value, .flowEntry, .flowMappingEnd] false false
        let hasValue ← acceptToken .value
        let value ←
          if hasValue then readNodeUnless fuel [.flowEntry, .flowMappingEnd] false false
          else addNode .empty
        readFlowEntries fuel false ((key, value) :: found)
      else
        if ← nextIsIn [.flowMappingEnd] then readFlowEntries fuel false found
        else
          let key ← readNode fuel false false
          let value ← addNode .empty
          readFlowEntries fuel false ((key, value) :: found)

end

/-! ### Documents -/

def readDirectives : Nat → Bool → NodeStep Unit
  | 0, _ => throw .malformed
  | fuel + 1, hasVersion => do
    match ← peekToken with
    | .directive (.version major _) =>
      dropToken
      if hasVersion || major != 1 then throw .malformed else readDirectives fuel true
    | .directive (.tagHandle handle uri) =>
      dropToken
      let s ← get
      if (s.handles.lookup handle).isSome then throw .malformed
      else
        set { s with handles := (handle, uri) :: s.handles }
        readDirectives fuel hasVersion
    | .directive .reserved =>
      dropToken
      readDirectives fuel hasVersion
    | _ => return ()

def skipDocumentEnds : Nat → NodeStep Unit
  | 0 => return ()
  | fuel + 1 => do
    if ← acceptToken .documentEnd then skipDocumentEnds fuel else return ()

def contentIsMissing : NodeStep Bool := do
  match ← peekToken with
  | .directive _ | .documentStart | .documentEnd | .streamEnd => return true
  | _ => return false

def standardHandles : List (String × String) := [("!", "!"), ("!!", tagNamespace)]

def readStream (size : Nat) : NodeStep (Option NodeId) := do
  let first ← peekToken
  if first == .streamEnd then return none
  else
    let isExplicit := match first with
      | .directive _ => true
      | .documentStart => true
      | _ => false
    if isExplicit then
      readDirectives size false
      expectToken .documentStart
    else pure ()
    modify fun s => { s with handles := s.handles ++ standardHandles }
    let missing ← if isExplicit then contentIsMissing else pure false
    let root ← if missing then addNode .empty else readNode size true false
    skipDocumentEnds size
    expectToken .streamEnd
    return some root

/-- The nodes of the document that a text denotes, with its root, if it has one. -/
def nodesOf (text : List Char) : Except Fault (Option (Graph × NodeId)) := do
  let (found, fault) := tokens text
  let start : Composing := { tokens := found, fault := fault }
  let (root, final) ← (readStream (3 * found.length + 8)).run start
  return root.map fun id => (final.graph, id)

end FieldRules.Yaml
