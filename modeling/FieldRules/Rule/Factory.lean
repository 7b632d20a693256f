/-
  FieldRules/Rule/Factory.lean
  ============================
  **From a rule with resolved arguments to a validator.**

  A factory builds the validator of one rule from the arguments of the rule,
  the declared type of the field, and the records that are registered.  It may
  refuse them: a bound may be missing, a pattern may be malformed, the type may
  be the wrong one.  The built-in rules are a closed list; an application adds
  factories of its own.
-/
import FieldRules.Record.FieldType
import FieldRules.Regex.Reader
import FieldRules.Validator.Basic

namespace FieldRules

open FieldRules.Text

/-! ### Record validators -/

/-- The validator of a record class: the fields that have rules, in the order
    of their declaration, with the validator of each. -/
structure RecordValidator where
  cls : RecordClass
  fields : List (String × Validator)

namespace RecordValidator

/-- The validator of a record: the value has to be an instance of the class,
    and each field has to pass. -/
def toValidator (validator : RecordValidator) : Validator :=
  .record validator.cls validator.fields

def run (validator : RecordValidator) (value : Value) : Outcome :=
  validator.toValidator.run value

def fieldNames (validator : RecordValidator) : List String := validator.fields.map (·.1)

def shown (validator : RecordValidator) : String :=
  "RecordValidator(" ++ validator.cls.qualifiedName ++ ", fields="
    ++ quotedList validator.fieldNames ++ ")"

/-- Whether a record class goes by a name, with or without the place of its definition. -/
def isCalled (validator : RecordValidator) (name : String) : Bool :=
  name == validator.cls.qualifiedName || name == validator.cls.name

end RecordValidator

/-! ### Factories -/

/-- The arguments of a factory: the name of the rule, the strings and integers
    it was given, the type of the field without its option, and the record
    validators that are registered, in order, if any can be referred to.  Rule text
    has unsigned integers alone, but a factory can be asked with any. -/
structure RuleArguments where
  name : String := ""
  strings : List String := []
  integers : List Int := []
  fieldType : FieldType := .absent
  records : Option (List RecordValidator) := none

inductive Refusal where
  | integerRequired
  | stringRequired
  /-- The field has another type than a text. -/
  | notTextField (type : FieldType)
  | malformedPattern (fault : Regex.Fault)
  /-- More than one registered record goes by the name. -/
  | ambiguousRecord (name : String) (count : Nat)
  | unregisteredRecord (type : FieldType)
  /-- A refusal in a factory's own words. -/
  | stated (reason : String)
deriving Repr

def Refusal.reason : Refusal → String
  | integerRequired => "requires one integer argument"
  | stringRequired => "requires one string argument"
  | notTextField type => "field must be declared as str, not " ++ type.name
  | malformedPattern fault =>
    "invalid regex pattern " ++ quoted fault.pattern ++ ": " ++ fault.message
  | ambiguousRecord name count =>
    "record type name " ++ quoted name ++ " matches " ++ toString count ++ " registered records"
  | unregisteredRecord type => "record type " ++ type.qualifiedName ++ " is not registered"
  | stated reason => reason

/-- Why a factory builds nothing. -/
inductive FactoryFault where
  /-- It refuses its arguments. -/
  | refused (refusal : Refusal)
  /-- A pattern is beyond what can be supported. -/
  | unsupportedPattern (fault : Regex.Fault)
deriving Repr

/-- What a factory builds; it may also build no validator at all. -/
abbrev Built := Except FactoryFault (Option Validator)

inductive Builtin where
  | max
  | min
  | integerRange
  | stringRange
  | notEmpty
  | length
  | regex
  | record
deriving DecidableEq, Repr

namespace Builtin

def all : List Builtin :=
  [max, min, integerRange, stringRange, notEmpty, length, regex, record]

def name : Builtin → String
  | max => "max"
  | min => "min"
  | integerRange => "irange"
  | stringRange => "srange"
  | notEmpty => "not_empty"
  | length => "len"
  | regex => "regex"
  | record => "strct"

def ofName? (name : String) : Option Builtin := all.find? (·.name == name)

def factoryName : Builtin → String
  | max => "max_validator"
  | min => "min_validator"
  | integerRange => "int_range_validator"
  | stringRange => "string_range_validator"
  | notEmpty => "not_empty_validator"
  | length => "len_validator"
  | regex => "regex_validator"
  | record => "record_validator"

def summary : Builtin → String
  | max => "max(N): the value, as an unsigned integer, must not exceed N."
  | min => "min(N): the value, as an unsigned integer, must be at least N."
  | integerRange => "irange(A, B, ...): the value must be one of the listed integers."
  | stringRange => "srange('a', 'b', ...): the value must be one of the listed strings."
  | notEmpty => "not_empty(): the string must contain a non-whitespace character."
  | length => "len(N): the string must be exactly N characters long."
  | regex => "regex('pattern'): the string must contain a match for the pattern."
  | record => "strct(): delegate to the record validator registered for the field type."

def firstInteger (arguments : RuleArguments) : Except FactoryFault Int :=
  match arguments.integers with
  | [] => .error (.refused .integerRequired)
  | first :: _ => .ok first

def firstString (arguments : RuleArguments) : Except FactoryFault String :=
  match arguments.strings with
  | [] => .error (.refused .stringRequired)
  | first :: _ => .ok first

def requireTextField (arguments : RuleArguments) : Except FactoryFault Unit :=
  if arguments.fieldType.isTextClass then .ok ()
  else .error (.refused (.notTextField arguments.fieldType))

/-- The pattern that a text denotes; a fault of notation is a refusal. -/
def readPattern (source : String) : Except FactoryFault Regex :=
  match Regex.parse source with
  | .ok pattern => .ok pattern
  | .error fault =>
    if fault.problem.isMalformed then .error (.refused (.malformedPattern fault))
    else .error (.unsupportedPattern fault)

/-- The record validator that a field refers to by its type: by the class, or,
    where the type is not resolved, by a name that only one record goes by. -/
def findRecord (arguments : RuleArguments) : Except FactoryFault RecordValidator :=
  let missing := Except.error (FactoryFault.refused (.unregisteredRecord arguments.fieldType))
  match arguments.records, arguments.fieldType with
  | some records, .record cls =>
    match records.find? (·.cls.id == cls.id) with
    | some found => .ok found
    | none => missing
  | some records, .unresolved name =>
    match records.filter (·.isCalled name) with
    | [] => missing
    | [found] => .ok found
    | several => .error (.refused (.ambiguousRecord name several.length))
  | _, _ => missing

def build (rule : Builtin) (arguments : RuleArguments) : Except FactoryFault Validator :=
  match rule with
  | max => (firstInteger arguments).map fun bound => .test (.atMost bound)
  | min => (firstInteger arguments).map fun bound => .test (.atLeast bound)
  | integerRange => .ok (.test (.oneOfNumbers arguments.integers))
  | stringRange => .ok (.test (.oneOfTexts arguments.strings))
  | notEmpty => .ok (.test .notBlank)
  | length => do
    requireTextField arguments
    let count ← firstInteger arguments
    return .test (.hasLength count)
  | regex => do
    requireTextField arguments
    let source ← firstString arguments
    let pattern ← readPattern source
    return .test (.contains source pattern)
  | record => (findRecord arguments).map (·.toValidator)

end Builtin

/-- A factory that an application brings along, with the tag it is known by and
    the name that the log shows.  What it builds, if anything, judges a value by
    that value alone. -/
structure CustomFactory where
  tag : String
  shownName : String := "factory"
  build : RuleArguments → Except FactoryFault (Option (Value → Outcome))

inductive Factory where
  | builtin (rule : Builtin)
  | custom (factory : CustomFactory)

def Factory.build : Factory → RuleArguments → Built
  | builtin rule, arguments => (rule.build arguments).map some
  | custom factory, arguments => (factory.build arguments).map (Option.map .custom)

end FieldRules
