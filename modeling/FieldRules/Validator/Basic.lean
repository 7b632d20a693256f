/-
  FieldRules/Validator/Basic.lean
  ===============================
  **Validators, and what running one shows.**

  A validator is data: the tests it makes, combined by "first this, then that",
  by attribution to a field, by admitting an absent value, and by looking into
  a record, field by field.  Nothing in it refers back to the registry it was
  built from, so a validator keeps its meaning whatever is registered later.

  Running a validator on a value shows a verdict and the custom checks that
  ran on the way, in order.  A run can also break off: a record may lack an
  attribute, and a numeral may be too long to be read.
-/
import FieldRules.Arguments.Basic
import FieldRules.Failure
import FieldRules.Number.Numeral
import FieldRules.Regex.Match
import FieldRules.Value.Basic

namespace FieldRules

open FieldRules.Text

/-! ### Verdicts -/

/-- Why a run breaks off. -/
inductive RunFault where
  /-- A record of a class has no such attribute. -/
  | missingAttribute (className name : String)
  /-- A numeral has this many digits, which are too many to read. -/
  | numeralTooLong (digits : Nat)
deriving DecidableEq, Repr

def RunFault.message : RunFault → String
  | missingAttribute className name => Value.missingAttributeMessage className name
  | numeralTooLong digits => Number.tooLongToRead digits

/-- The verdict on a value: nothing if it passed, otherwise the failure. -/
abbrev Verdict := Except RunFault (Option Failure)

/-- What running a validator shows. -/
structure Outcome where
  /-- The labels of the custom checks that ran, in order. -/
  calls : List String := []
  verdict : Verdict
deriving Repr

namespace Outcome

def passed : Outcome := { verdict := .ok none }

def failed (cause : FailureCause) : Outcome := { verdict := .ok (some { cause := cause }) }

def fault? (outcome : Outcome) : Option RunFault :=
  match outcome.verdict with
  | .error fault => some fault
  | .ok _ => none

def andThen (first : Outcome) (second : Unit → Outcome) : Outcome :=
  match first.verdict with
  | .ok none =>
    let rest := second ()
    { calls := first.calls ++ rest.calls, verdict := rest.verdict }
  | _ => first

def inField (outcome : Outcome) (name : String) : Outcome :=
  { outcome with verdict := outcome.verdict.map (Option.map (·.inField name)) }

end Outcome

/-! ### Numbers that rules compare -/

/-- The unsigned integer of 64 bits that a value stands for.  An integer is
    reduced modulo 2^64; a text of ASCII digits stands for its value if that is
    below 2^64; no other value stands for a number, truth values included. -/
def Value.toUnsigned : Value → Except RunFault (Option Nat)
  | .integer value => .ok (some (value % integerModulus).toNat)
  | value =>
    match value.text? with
    | .none => .ok .none
    | .some content =>
      let digits := content.toList
      if digits.isEmpty || !digits.all Char.isDigit then .ok .none
      else if Number.maxDigits < digits.length then .error (.numeralTooLong digits.length)
      else
        let number := Number.ofDecimalChars digits
        .ok (if number < integerModulus then some number else .none)

/-! ### Tests -/

/-- The tests that the built-in rules make. -/
inductive Test where
  | atMost (bound : Int)
  | atLeast (bound : Int)
  | oneOfNumbers (allowed : List Int)
  | oneOfTexts (allowed : List String)
  | notBlank
  | hasLength (length : Int)
  | contains (source : String) (pattern : Regex)

namespace Test

def judgeNumber (value : Value) (judge : Nat → Option FailureCause) : Outcome :=
  match value.toUnsigned with
  | .error fault => { verdict := .error fault }
  | .ok none => .failed (.wrongKind "an integer" value.className)
  | .ok (some number) =>
    match judge number with
    | none => .passed
    | some cause => .failed cause

def judgeText (value : Value) (judge : String → Option FailureCause) : Outcome :=
  match value.text? with
  | none => .failed (.wrongKind "a string" value.className)
  | some text =>
    match judge text with
    | none => .passed
    | some cause => .failed cause

def run (test : Test) (value : Value) : Outcome :=
  match test with
  | atMost bound =>
    judgeNumber value fun number => if bound < (number : Int) then some (.above number bound) else none
  | atLeast bound =>
    judgeNumber value fun number => if (number : Int) < bound then some (.below number bound) else none
  | oneOfNumbers allowed =>
    judgeNumber value fun number =>
      if allowed.contains (number : Int) then none else some (.unlistedNumber number)
  | oneOfTexts allowed =>
    judgeText value fun text => if allowed.contains text then none else some (.unlistedText text)
  | notBlank =>
    judgeText value fun text => if text.toList.all isBlank then some .blankText else none
  | hasLength length =>
    judgeText value fun text =>
      if (text.length : Int) == length then none else some (.wrongLength text.length length)
  | contains source pattern =>
    judgeText value fun text => if pattern.isFoundIn text then none else some (.noMatch source)

end Test

/-! ### Validators -/

inductive Validator where
  /-- Every value passes. -/
  | always
  | test (what : Test)
  /-- A check that an application brings along: what it shows depends on the value alone. -/
  | custom (judge : Value → Outcome)
  /-- The second validator, if the value passes the first. -/
  | both (first second : Validator)
  /-- Failures are attributed to a field. -/
  | inField (name : String) (inner : Validator)
  /-- The absent value passes. -/
  | optional (inner : Validator)
  /-- The value has to be an instance of a record class, and its attributes have
      to pass, each the validator that stands beside its name. -/
  | record (cls : RecordClass) (fields : List (String × Validator))

namespace Validator

def readAttribute (value : Value) (name : String) : Except RunFault Value :=
  match value.attribute? name with
  | some inner => .ok inner
  | none => .error (.missingAttribute value.className name)

mutual

def run : Validator → Value → Outcome
  | always, _ => .passed
  | test what, value => what.run value
  | custom judge, value => judge value
  | both first second, value => (first.run value).andThen fun _ => second.run value
  | inField name inner, value => (inner.run value).inField name
  | optional inner, value =>
    match value with
    | .none => .passed
    | present => inner.run present
  | record cls fields, value =>
    if value.isInstanceOf cls then runFields fields value
    else .failed (.wrongKind ("a " ++ cls.qualifiedName) value.className)

/-- The validators of fields, in order, each on the attribute of its name. -/
def runFields : List (String × Validator) → Value → Outcome
  | [], _ => .passed
  | (name, validator) :: rest, value =>
    match readAttribute value name with
    | .error fault => { verdict := .error fault }
    | .ok present => (validator.run present).andThen fun _ => runFields rest value

end

/-! ### Combinations of validators that may be missing -/

def andThen : Option Validator → Option Validator → Validator
  | none, none => always
  | none, some second => second
  | some first, none => first
  | some first, some second => both first second

/-- All validators that are there, in order. -/
def chain (validators : List (Option Validator)) : Validator :=
  (validators.foldl (fun combined next => some (andThen combined next)) none).getD always

/-- Attributes the failures of a validator to a field; a missing one passes every value. -/
def withField (validator : Option Validator) (name : String) : Validator :=
  match validator with
  | none => always
  | some inner => inField name inner

end Validator

end FieldRules
