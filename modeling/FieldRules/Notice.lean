/-
  FieldRules/Notice.lean
  ======================
  **What is worth noting while rules and constants are registered.**

  Registering a name again is allowed, the last registration holds, and the
  fact is noted as a warning.  Everything else that is noted is detail, for
  those who follow the program closely.
-/
import FieldRules.Text.Message

namespace FieldRules

open FieldRules.Text

inductive NameUse where
  | validator
  | integer
  | string
deriving DecidableEq, Repr

/-- A note. -/
inductive Notice where
  /-- A name that is in use was registered again, for the same use. -/
  | overwritten (use : NameUse) (name : String)
  /-- A rule was registered, with a factory of a given name. -/
  | validatorRegistered (name factory : String)
  | integerRegistered (name : String) (value : Nat)
  | stringRegistered (name value : String)
  /-- All constants of a file were registered. -/
  | constantsRegistered (integers strings : Nat) (path : String)
  /-- The constants asked for on a command line are there. -/
  | constantsLoaded (count : Nat) (path : String)
deriving DecidableEq, Repr

namespace Notice

def isWarning : Notice → Bool
  | overwritten _ _ => true
  | _ => false

def topic : Notice → String
  | constantsRegistered _ _ _ => "ruletag.config"
  | constantsLoaded _ _ => "ruletag.cli.main"
  | _ => "ruletag.registry.registry"

def message : Notice → String
  | overwritten .validator name =>
    "Validator " ++ quoted name ++ " is already registered; overwriting."
  | overwritten .integer name =>
    "Integer constant " ++ quoted name ++ " is already registered; overwriting."
  | overwritten .string name =>
    "String constant " ++ quoted name ++ " is already registered; overwriting."
  | validatorRegistered name factory =>
    "Registered validator " ++ quoted name ++ " -> " ++ factory
  | integerRegistered name value =>
    "Registered integer constant " ++ quoted name ++ " = " ++ toString value
  | stringRegistered name value =>
    "Registered string constant " ++ quoted name ++ " = " ++ quoted value
  | constantsRegistered integers strings path =>
    "Loaded " ++ toString integers ++ " integer and " ++ toString strings
      ++ " string constant(s) from " ++ path
  | constantsLoaded count path =>
    "Loaded " ++ toString count ++ " constant(s) from " ++ path

def logLine (notice : Notice) : String :=
  (if notice.isWarning then "WARNING " else "DEBUG ") ++ notice.topic ++ ": " ++ notice.message

end Notice

end FieldRules
