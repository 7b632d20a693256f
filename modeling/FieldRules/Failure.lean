/-
  FieldRules/Failure.lean
  =======================
  **Why a value did not pass.**

  A failure has a cause, from which its code and its wording follow, and the
  path of field names that leads from the outermost record to the value.  The
  name of the field that a failure is attributed to is the outermost one.
-/
import FieldRules.Text.Message

namespace FieldRules

open FieldRules.Text

inductive FailureCause where
  /-- The value is not of the expected kind, which is given with its article. -/
  | wrongKind (expected className : String)
  /-- The number is above the bound. -/
  | above (number : Nat) (bound : Int)
  /-- The number is below the bound. -/
  | below (number : Nat) (bound : Int)
  /-- The number is not one of the listed ones. -/
  | unlistedNumber (number : Nat)
  /-- The text is not one of the listed ones. -/
  | unlistedText (text : String)
  /-- The text is blank. -/
  | blankText
  /-- The text has another length than the one asked for. -/
  | wrongLength (length : Nat) (expected : Int)
  /-- The text contains no match for the pattern. -/
  | noMatch (pattern : String)
  /-- A cause stated in a rule's own words, with a code of its own. -/
  | stated (reason code : String)
deriving DecidableEq, Repr

namespace FailureCause

def code : FailureCause → String
  | wrongKind _ _ => "RT100"
  | above _ _ => "RT101"
  | below _ _ => "RT101"
  | unlistedNumber _ => "RT102"
  | unlistedText _ => "RT102"
  | blankText => "RT103"
  | wrongLength _ _ => "RT104"
  | noMatch _ => "RT105"
  | stated _ code => code

def reason : FailureCause → String
  | wrongKind expected className => "not " ++ expected ++ ": got " ++ className
  | above number bound => "out of range: " ++ toString number ++ " > " ++ toString bound
  | below number bound => "out of range: " ++ toString number ++ " < " ++ toString bound
  | unlistedNumber number => "invalid value: " ++ toString number
  | unlistedText text => "invalid value: " ++ quoted text
  | blankText => "empty string"
  | wrongLength length expected =>
    "invalid string length: " ++ toString length ++ " != " ++ toString expected
  | noMatch pattern => "string does not match pattern " ++ quoted pattern
  | stated reason _ => reason

end FailureCause

/-- A failure: its cause, the field it is attributed to (empty while there is
    none), and the field names from the outermost record down to the value. -/
structure Failure where
  cause : FailureCause
  fieldName : String := ""
  path : List String := []
deriving DecidableEq, Repr

namespace Failure

/-- The failure seen from the record around it, in which the value is a field. -/
def inField (failure : Failure) (name : String) : Failure :=
  { failure with fieldName := name, path := name :: failure.path }

/-- The text of a failure: its code, if it has one, where it happened, if that
    is known, and the reason. -/
def render (failure : Failure) : String :=
  let code := failure.cause.code
  let tag := if code.isEmpty then "" else "[" ++ code ++ "] "
  if failure.fieldName.isEmpty then tag ++ "validation failed: " ++ failure.cause.reason
  else
    let place := if failure.path.isEmpty then failure.fieldName else ".".intercalate failure.path
    tag ++ "validation failed for field " ++ place ++ ": " ++ failure.cause.reason

end Failure

end FieldRules
