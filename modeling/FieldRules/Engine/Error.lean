/-
  FieldRules/Engine/Error.lean
  ============================
  **What can go wrong in using an engine.**

  Errors of configuration are mistakes in rules, names, constants and their
  files.  The others are misuses, values that cannot be judged, and limits of
  what can be read.
-/
import FieldRules.Constants.File
import FieldRules.Engine.Basic
import FieldRules.Record.Description

namespace FieldRules

open FieldRules.Text

/-- What can go wrong in using an engine. -/
inductive Error where
  | notName (fault : NameFault)
  | constant (fault : ConstantFault)
  /-- A value that builds nothing is to be registered as a factory under a name. -/
  | notFactory (shown name : String)
  | build (fault : BuildFault)
  | description (fault : DescriptionFault)
  | file (fault : FileFault)
  /-- A value is to be validated whose class is not registered. -/
  | unregisteredRecord (qualifiedName : String)
  /-- The absent value is to be validated as a record. -/
  | absentRecord
  /-- A record was to pass and did not. -/
  | failedRecord (failure : Failure)
  | run (fault : RunFault)
deriving Repr

namespace Error

def message : Error → String
  | notName fault => fault.message
  | constant fault => fault.message
  | notFactory shown name =>
    "Cannot register " ++ shown ++ " under " ++ quoted name ++ ": factory must be callable."
  | build fault => fault.message
  | description fault => fault.message
  | file fault => fault.message
  | unregisteredRecord qualifiedName =>
    "Record type " ++ qualifiedName
      ++ " is not registered; call register_record() before validating it."
  | absentRecord => "Invalid record: None cannot be validated."
  | failedRecord failure => failure.render
  | run fault => fault.message

def isConfiguration : Error → Bool
  | notName fault => fault.isConfiguration
  | constant (.invalidName fault) => fault.isConfiguration
  | build (.factory _ (.unsupportedPattern _)) => false
  | build _ => true
  | description (.notDescribable _) => true
  | file fault => fault.isConfiguration
  | _ => false

end Error

end FieldRules
