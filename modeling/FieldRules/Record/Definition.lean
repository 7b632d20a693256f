/-
  FieldRules/Record/Definition.lean
  =================================
  **Definitions of record classes.**

  A record class declares fields, and may extend another class, whose fields
  come first.  A field that is declared again keeps its place and takes the new
  declaration.  A field may have a default, which is what reading the attribute
  of a record gives where the record has none of its own.
-/
import FieldRules.Record.FieldType
import FieldRules.Table

namespace FieldRules

/-- The declaration of a field: its type as it is written, and its rules, if it
    has any; a field with blank rules is validated, and every value passes. -/
structure FieldDeclaration where
  type : FieldType
  rules : Option String := none
deriving Repr

/-- What a class brings along by itself: the types that it annotates names with, and
    its attributes. -/
structure ClassLayer where
  annotations : Table FieldType := []
  attributes : Table Value := []
deriving Repr

/-- The definition of a record class: its fields, and what the classes that it extends
    and the class itself bring along, from the outermost class down.  A class that
    declares no fields can annotate those that it inherits. -/
structure RecordDefinition where
  cls : RecordClass
  /-- Whether the fields can be told from the class. -/
  describable : Bool := true
  fields : Table FieldDeclaration := []
  layers : List ClassLayer := []
deriving Repr

namespace RecordDefinition

def overlay {α : Type} (table more : Table α) : Table α :=
  more.foldl (fun sofar entry => sofar.insert entry.1 entry.2) table

/-- The definition of a class with declarations and defaults of its own, which
    may extend another one.  Only a class that declares fields makes fields of its
    declarations; for any other class they are annotations alone. -/
def extending (base : Option RecordDefinition) (cls : RecordClass) (declaresFields : Bool)
    (own : Table FieldDeclaration) (defaults : Table Value) : RecordDefinition :=
  let outer : RecordDefinition := base.getD { cls := cls, describable := false }
  let ancestors := match base with
    | some outer => outer.cls.id :: outer.cls.ancestors
    | none => []
  let fields := if declaresFields then overlay outer.fields own else outer.fields
  let layer : ClassLayer :=
    { annotations := own.map fun (name, field) => (name, field.type), attributes := defaults }
  { cls := { cls with ancestors := ancestors, fieldNames := fields.names }
    describable := declaresFields || outer.describable
    fields := fields
    layers := outer.layers ++ [layer] }

def defaults (definition : RecordDefinition) : Table Value :=
  definition.layers.foldl (fun table layer => overlay table layer.attributes) []

def record (definition : RecordDefinition) (attributes : Table Value) : Value :=
  .record definition.cls
    (attributes ++ definition.defaults.filter fun entry => !attributes.has entry.1)

end RecordDefinition

end FieldRules
