/-
  FieldRules/Engine/Basic.lean
  ============================
  **Engines: the rules, constants and records that belong together.**

  An engine holds the factories of rules by name, the constants, and the
  validators of the record classes that are registered, in the order of their
  registration.  Validators hold no reference to the engine, so what is
  registered later changes none of them.
-/
import FieldRules.Constants.Basic
import FieldRules.Rule
import FieldRules.Rule.Factory

namespace FieldRules

open FieldRules.Text

/-- The rules, constants and records that belong together. -/
structure Engine where
  factories : Table Factory := []
  constants : Constants := {}
  records : List RecordValidator := []

/-- Why a validator is not built. -/
inductive BuildFault where
  /-- The text of the rules is malformed. -/
  | malformed (fault : SyntaxFault)
  /-- No rule of the name is registered; those that are, in order of their names. -/
  | unknownRule (name : String) (available : List String)
  | unknownConstant (name : String)
  /-- The factory of a rule builds nothing from its arguments. -/
  | factory (rule : String) (fault : FactoryFault)
deriving Repr

def BuildFault.message : BuildFault → String
  | malformed fault => fault.message
  | unknownRule name available =>
    "Unknown validator " ++ quoted name ++ "."
      ++ (if available.isEmpty then ""
        else " Available validators: " ++ ", ".intercalate available ++ ".")
  | unknownConstant name =>
    "Unknown constant " ++ quoted name
      ++ "; register it with register_constant_int() or register_constant_str() first."
  | factory rule (.refused refusal) =>
    "Cannot build validator " ++ quoted rule ++ ": " ++ refusal.reason
  | factory _ (.unsupportedPattern fault) => fault.problem.message

namespace Engine

/-! ### Looking things up -/

def factory? (engine : Engine) (name : String) : Option Factory := engine.factories.get? name

def factory (engine : Engine) (name : String) : Except BuildFault Factory :=
  match engine.factory? name with
  | some factory => .ok factory
  | none => .error (.unknownRule name engine.factories.sortedNames)

def record? (engine : Engine) (cls : RecordClass) : Option RecordValidator :=
  engine.records.find? (·.cls.id == cls.id)

def recordsCalled (engine : Engine) (name : String) : List RecordValidator :=
  engine.records.filter (·.isCalled name)

/-! ### Printed forms -/

def shown (engine : Engine) : String :=
  "ValidatorEngine(validators=" ++ toString engine.factories.length ++ ", constants="
    ++ toString engine.constants.count ++ ", records=" ++ toString engine.records.length ++ ")"

def shownRules (engine : Engine) : String :=
  "ValidatorRegistry(validators=" ++ quotedList engine.factories.sortedNames ++ ")"

def shownRecords (engine : Engine) : String :=
  "RecordValidatorCache(records="
    ++ quotedList ((engine.records.map (·.cls.qualifiedName)).mergeSort
      fun first second => decide (first ≤ second)) ++ ")"

end Engine

end FieldRules
