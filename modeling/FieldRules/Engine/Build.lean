/-
  FieldRules/Engine/Build.lean
  ============================
  **Building validators from rule text.**

  The text of a field is read as a whole before any of its rules is built.
  Then, rule by rule, the factory is looked up, the symbols among the arguments
  are replaced by the constants that they name, from left to right, and the
  factory is asked for a validator.  The first fault ends the building.
-/
import FieldRules.Engine.Basic
import FieldRules.Record.Description

namespace FieldRules.Engine

/-- The integers and strings of a rule with the constants that symbols name,
    each behind those of its kind. -/
def resolveSymbols (constants : Constants) (integers : List Nat) (strings : List String) :
    List String → Except BuildFault (List Nat × List String)
  | [] => .ok (integers, strings)
  | symbol :: rest =>
    match constants.lookup? symbol with
    | none => .error (.unknownConstant symbol)
    | some (.integer value) => resolveSymbols constants (integers ++ [value]) strings rest
    | some (.string value) => resolveSymbols constants integers (strings ++ [value]) rest

def resolve (engine : Engine) (fieldType : FieldType) (rule : Rule) :
    Except BuildFault RuleArguments :=
  match resolveSymbols engine.constants rule.arguments.integers rule.arguments.strings
      rule.arguments.symbols with
  | .error fault => .error fault
  | .ok (integers, strings) =>
    .ok { name := rule.name, strings := strings, integers := integers.map Int.ofNat
          fieldType := fieldType, records := some engine.records }

/-- The validator of a rule; its factory may build none. -/
def buildRule (engine : Engine) (fieldType : FieldType) (rule : Rule) :
    Except BuildFault (Option Validator) :=
  match engine.factory rule.name with
  | .error fault => .error fault
  | .ok factory =>
    match engine.resolve fieldType rule with
    | .error fault => .error fault
    | .ok arguments =>
      match factory.build arguments with
      | .ok validator => .ok validator
      | .error fault => .error (.factory rule.name fault)

def buildRules (engine : Engine) (fieldType : FieldType) :
    List Rule → Except BuildFault (List (Option Validator))
  | [] => .ok []
  | rule :: rest =>
    match engine.buildRule fieldType rule with
    | .error fault => .error fault
    | .ok validator =>
      match buildRules engine fieldType rest with
      | .error fault => .error fault
      | .ok validators => .ok (validator :: validators)

/-- The validator of a field: all its rules, attributed to the field, behind
    the option of the absent value. -/
def buildField (engine : Engine) (field : FieldDescription) : Except BuildFault Validator :=
  match Rule.parse (field.rules.getD "") with
  | .error fault => .error (.malformed fault)
  | .ok rules =>
    match engine.buildRules field.fieldType rules with
    | .error fault => .error fault
    | .ok validators =>
      let validator := Validator.withField (some (Validator.chain validators)) field.name
      .ok (if field.optional then .optional validator else validator)

def buildFields (engine : Engine) :
    List FieldDescription → Except BuildFault (List (String × Validator))
  | [] => .ok []
  | field :: rest =>
    match engine.buildField field with
    | .error fault => .error fault
    | .ok validator =>
      match buildFields engine rest with
      | .error fault => .error fault
      | .ok validators => .ok ((field.name, validator) :: validators)

def buildRecord (engine : Engine) (description : RecordDescription) :
    Except BuildFault RecordValidator :=
  match engine.buildFields description.validatedFields with
  | .error fault => .error fault
  | .ok fields => .ok { cls := description.cls, fields := fields }

def compile (engine : Engine) (rules : String) (type : FieldType) (name : String) :
    Except BuildFault Validator :=
  let (fieldType, optional) := type.unwrapOptional
  engine.buildField { name := name, fieldType := fieldType, rules := some rules, optional := optional }

end FieldRules.Engine
