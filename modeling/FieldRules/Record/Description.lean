/-
  FieldRules/Record/Description.lean
  ==================================
  **What a record validator is built from.**

  A description lists the fields of a record class with their types, rules and
  options.  It can be made by hand, or told from the definition of the class.
  In the latter case all annotations are resolved together; if a name in any of
  them is unknown, each field is read on its own, and those that cannot be read
  keep their text.
-/
import FieldRules.TypeText.Meaning
import FieldRules.Record.Definition

namespace FieldRules

/-- A field of a record: its name, its type without the option of the absent
    value, its rules if it is validated, and whether it has that option. -/
structure FieldDescription where
  name : String
  fieldType : FieldType := .absent
  rules : Option String := none
  optional : Bool := false
deriving Repr

/-- A record class and its fields, in order. -/
structure RecordDescription where
  cls : RecordClass
  fields : List FieldDescription := []
deriving Repr

/-- Why a class has no description. -/
inductive DescriptionFault where
  /-- It is no class whose fields can be told. -/
  | notDescribable (qualifiedName : String)
  | typeText (fault : TypeText.Fault)
deriving DecidableEq, Repr

def DescriptionFault.message : DescriptionFault → String
  | notDescribable qualifiedName =>
    "Cannot register " ++ qualifiedName ++ ": only dataclasses can be described automatically"
  | typeText fault => fault.message

namespace RecordDescription

def validatedFields (description : RecordDescription) : List FieldDescription :=
  description.fields.filter (·.rules.isSome)

/-- A field with a type that nothing is left to resolve in. -/
def describeField (name : String) (declaration : FieldDeclaration) (type : FieldType) :
    FieldDescription :=
  let (inner, optional) := type.unwrapOptional
  { name := name, fieldType := inner, rules := declaration.rules, optional := optional }

/-- The types that some classes annotate, resolved together; those of later classes
    take the place of others. -/
def resolveTogether (scope : TypeText.Scope) (layers : List ClassLayer) :
    Except TypeText.Fault (Table FieldType) :=
  layers.foldlM (fun types layer =>
    layer.annotations.foldlM (fun sofar (name, type) => do
      let resolved ← TypeText.resolveDeclared (scope.inClass layer.attributes) type
      return Table.insert sofar name resolved) types) []

def describeSeparately (scope : TypeText.Scope) (fields : Table FieldDeclaration) :
    Except TypeText.Fault (List FieldDescription) :=
  fields.mapM fun (name, declaration) => do
    return describeField name declaration (← TypeText.readDeclared scope declaration.type)

def describeFields (scope : TypeText.Scope) (definition : RecordDefinition) :
    Except TypeText.Fault (List FieldDescription) :=
  match resolveTogether scope definition.layers with
  | .ok types =>
    .ok (definition.fields.map fun (name, declaration) =>
      describeField name declaration ((types.get? name).getD declaration.type))
  | .error (.unknownName _) => describeSeparately scope definition.fields
  | .error fault => .error fault

def ofDefinition (scope : TypeText.Scope) (definition : RecordDefinition) :
    Except DescriptionFault RecordDescription :=
  if !definition.describable then .error (.notDescribable definition.cls.qualifiedName)
  else match describeFields scope definition with
    | .ok fields => .ok { cls := definition.cls, fields := fields }
    | .error fault => .error (.typeText fault)

end RecordDescription

end FieldRules
