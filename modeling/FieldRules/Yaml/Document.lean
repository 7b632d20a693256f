/-
  FieldRules/Yaml/Document.lean
  =============================
  **The values that a YAML document denotes.**

  A document denotes a value, in which a collection may stand in many places, also
  inside of itself.  Such a value is shown as far as it does not come back to a
  collection that it stands in; there only the kind of that collection is shown.
-/
import FieldRules.Yaml.Building
import FieldRules.Yaml.Node

namespace FieldRules.Yaml

open FieldRules.Text

/-- A document: what is made of its nodes, and its root, if it has any content. -/
structure Document where
  made : Array (Option Made)
  root : Option NodeId

def parse (text : List Char) : Except Fault Document := do
  match ← nodesOf text with
  | none => return { made := #[], root := none }
  | some (graph, root) => return { made := ← buildAll graph root, root := some root }

/-! ### Values -/

def pairValue (key value : Value) : Value :=
  let shown := "(" ++ key.shown ++ ", " ++ value.shown ++ ")"
  .object "tuple" shown shown false

def setValue (members : List Value) : Value :=
  let shown :=
    if members.isEmpty then "set()"
    else "\x7b" ++ ", ".intercalate (members.map Value.shown) ++ "\x7d"
  .object "set" shown shown members.isEmpty

def Made.again : Made → Value
  | .mapping _ => .object "dict" "\x7b...\x7d" "\x7b...\x7d" false
  | _ => .object "list" "[...]" "[...]" false

/-- Values that do not come back to themselves, by node. -/
abbrev Unfolded := Array (Option Value)

/-- The value made of a node inside of the collections of a path, and whether it is
    complete.  At the outermost levels collections do not count as part of the path. -/
def unfold (document : Document) :
    Nat → Nat → List NodeId → NodeId → StateM Unfolded (Value × Bool)
  | 0, _, _, _ => return (.none, false)
  | fuel + 1, outer, path, id => do
    match (← get).getD id none, document.made.getD id none with
    | some value, _ => return (value, true)
    | none, none => return (.none, true)
    | none, some (.scalar value _) => return (value, true)
    | none, some made =>
      if path.contains id then return (made.again, false)
      else
        let inside := unfold document fuel (outer - 1) (if outer == 0 then id :: path else path)
        let entry (key value : NodeId) : StateM Unfolded ((Value × Value) × Bool) := do
          let (key, keyComplete) ← inside key
          let (value, complete) ← inside value
          return ((key, value), keyComplete && complete)
        let (value, complete) ← (do
          match made with
          | .scalar value _ => return (value, true)
          | .list items =>
            let parts ← items.mapM inside
            return (.list (parts.map (·.1)), parts.all (·.2))
          | .set members =>
            let parts ← members.mapM inside
            return (setValue (parts.map (·.1)), parts.all (·.2))
          | .mapping entries =>
            let parts ← entries.mapM fun (key, value) => entry key value
            return (.mapping (parts.map (·.1)), parts.all (·.2))
          | .pairs entries =>
            let parts ← entries.mapM fun (key, value) => entry key value
            return (.list (parts.map fun part => pairValue part.1.1 part.1.2), parts.all (·.2)))
        if complete then modify fun known => known.setIfInBounds id (some value) else pure ()
        return (value, complete)

/-- The value of a document, as seen from inside of its outermost levels: what stands
    there is shown once more where it comes back further inside. -/
def Document.value (document : Document) (outer : Nat) : Value :=
  match document.root with
  | none => .none
  | some root =>
    let start : Unfolded := Array.replicate document.made.size none
    ((unfold document (outer + document.made.size + 2) outer [] root).run start).1.1

/-! ### Faults -/

/-- How many characters of a text that is no integer are shown. -/
def shownLiteral : Nat := 200

def Fault.message : Fault → String
  | malformed => "malformed document"
  | codePointTooLarge beyondWord =>
    if beyondWord then "Python int too large to convert to C int"
    else "chr() arg not in range(0x110000)"
  | notInteger base text =>
    "invalid literal for int() with base " ++ toString base ++ ": "
      ++ String.ofList ((quoted text).toList.take shownLiteral)
  | integerTooLong digits => Number.tooLongToRead digits
  | emptyNumber => "string index out of range"
  | notFloat text => "could not convert string to float: " ++ quoted text
  | weightTooLarge => "int too large to convert to float"
  | notTruthValue text => quoted text
  | notTime => "'NoneType' object has no attribute 'groupdict'"
  | timeIsMapping => "expected string or bytes-like object, got 'list'"
  | tooDeep => "maximum recursion depth exceeded"
  | badTime problem => problem.message

end FieldRules.Yaml
