/-
  FieldRules/Engine/Operations.lean
  =================================
  **What is done with an engine: registering and validating.**

  An operation that fails leaves the engine as it was, with one exception: the
  constants of a file are registered one after the other, and those before one
  with an impossible name stay registered.
-/
import FieldRules.Engine.Build
import FieldRules.Engine.Error

namespace FieldRules

/-- What is handed over to be registered as the factory of a rule. -/
inductive Candidate where
  | factory (factory : Factory)
  /-- A value that builds nothing. -/
  | value (value : Value)

def Factory.shownName : Factory → String
  | builtin rule => rule.factoryName
  | custom factory => factory.shownName

namespace Engine

/-! ### Rules -/

def setFactory (engine : Engine) (name : String) (factory : Factory) : Engine × List Notice :=
  ({ engine with factories := engine.factories.insert name factory },
    (if engine.factories.has name then [.overwritten .validator name] else [])
      ++ [.validatorRegistered name factory.shownName])

def registerRule (engine : Engine) (name : Value) (candidate : Candidate) :
    Except Error (Engine × List Notice) :=
  match name.asName "validator" with
  | .error fault => .error (.notName fault)
  | .ok name =>
    match candidate with
    | .factory factory => .ok (engine.setFactory name factory)
    | .value value => .error (.notFactory value.shown name)

def deregisterRule (engine : Engine) (name : String) : Except Error Engine :=
  match engine.factory name with
  | .error fault => .error (.build fault)
  | .ok _ => .ok { engine with factories := engine.factories.erase name }

def setFactories (engine : Engine) : List (String × Factory) → Engine × List Notice
  | [] => (engine, [])
  | (name, factory) :: rest =>
    let (next, notices) := engine.setFactory name factory
    let (last, more) := setFactories next rest
    (last, notices ++ more)

/-- A new engine, with the built-in rules or without, and what is noted about it. -/
def create (builtins : Bool) : Engine × List Notice :=
  if builtins then
    setFactories {} (Builtin.all.map fun rule => (rule.name, .builtin rule))
  else ({}, [])

/-! ### Constants -/

def registerInteger (engine : Engine) (name value : Value) :
    Except Error (Engine × List Notice) :=
  match engine.constants.registerInteger name value with
  | .error fault => .error (.constant fault)
  | .ok (constants, notices) => .ok ({ engine with constants := constants }, notices)

def registerString (engine : Engine) (name value : Value) :
    Except Error (Engine × List Notice) :=
  match engine.constants.registerString name value with
  | .error fault => .error (.constant fault)
  | .ok (constants, notices) => .ok ({ engine with constants := constants }, notices)

/-- What an attempt to load constants leads to: the engine afterwards, what is
    noted, and the number of constants if all of them were registered. -/
structure Loading where
  engine : Engine
  notices : List Notice
  result : Except Error Nat

/-- Registers constants one after the other, up to the first that cannot be. -/
def registerEach (engine : Engine) :
    List (String × Constant) → Engine × List Notice × Except Error Unit
  | [] => (engine, [], .ok ())
  | (name, constant) :: rest =>
    let registered := match constant with
      | .integer value => engine.registerInteger (.text name) (.integer value)
      | .string value => engine.registerString (.text name) (.text value)
    match registered with
    | .error error => (engine, [], .error error)
    | .ok (next, notices) =>
      let (last, more, result) := registerEach next rest
      (last, notices ++ more, result)

/-- Registers the constants that a file defines, integers before strings. -/
def loadConstants (engine : Engine) (path : String) (read : FilePath → FileContent) : Loading :=
  match Constants.ofFile path read with
  | .error fault => { engine := engine, notices := [], result := .error (.file fault) }
  | .ok constants =>
    let entries := constants.integers.map (fun (name, value) => (name, Constant.integer value))
      ++ constants.strings.map (fun (name, value) => (name, Constant.string value))
    match engine.registerEach entries with
    | (last, notices, .error error) =>
      { engine := last, notices := notices, result := .error error }
    | (last, notices, .ok ()) =>
      { engine := last
        notices := notices
          ++ [.constantsRegistered constants.integers.length constants.strings.length path]
        result := .ok (constants.integers.length + constants.strings.length) }

/-! ### Records -/

/-- What registering a record leads to: the engine afterwards, the validator,
    and whether it was there before. -/
structure Registration where
  engine : Engine
  validator : RecordValidator
  reused : Bool

/-- Registers a record class by a description.  A class that is registered
    keeps its validator, and the description is not looked at. -/
def registerRecord (engine : Engine) (cls : RecordClass)
    (description : Except DescriptionFault RecordDescription) : Except Error Registration :=
  match engine.record? cls with
  | some validator => .ok { engine := engine, validator := validator, reused := true }
  | none =>
    match description with
    | .error fault => .error (.description fault)
    | .ok described =>
      match engine.buildRecord described with
      | .error fault => .error (.build fault)
      | .ok validator =>
        .ok { engine := { engine with records := engine.records ++ [validator] }
              validator := validator, reused := false }

def validatorOf (engine : Engine) (value : Value) : Except Error RecordValidator :=
  match value with
  | .none => .error .absentRecord
  | .record cls _ =>
    match engine.record? cls with
    | some validator => .ok validator
    | none => .error (.unregisteredRecord cls.qualifiedName)
  | other => .error (.unregisteredRecord other.qualifiedClassName)

def validate (engine : Engine) (value : Value) : Except Error Outcome :=
  (engine.validatorOf value).map fun validator => validator.run value

end Engine

/-- The error that a verdict amounts to for those who ask that a record passes. -/
def Verdict.error? : Verdict → Option Error
  | .ok none => none
  | .ok (some failure) => some (.failedRecord failure)
  | .error fault => some (.run fault)

end FieldRules
