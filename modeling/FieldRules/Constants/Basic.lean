/-
  FieldRules/Constants/Basic.lean
  ===============================
  **The constants that symbols in rule text stand for.**

  There are two tables, of integers and of strings.  A name may be in both, and
  then stands for the integer.  Within a table the last registration of a name
  holds.
-/
import FieldRules.Arguments.Basic
import FieldRules.Notice
import FieldRules.Table
import FieldRules.Value.Name

namespace FieldRules

open FieldRules.Text

inductive Constant where
  | integer (value : Nat)
  | string (value : String)
deriving DecidableEq, Repr

/-- Integer and string constants, each by name. -/
structure Constants where
  integers : Table Nat := []
  strings : Table String := []
deriving DecidableEq, Repr

/-- Why a constant is not registered. -/
inductive ConstantFault where
  | invalidName (fault : NameFault)
  /-- An integer was asked for, and the value is of another class. -/
  | notInteger (name className : String)
  /-- A string was asked for, and the value is of another class. -/
  | notString (name className : String)
  /-- The integer has no place in 64 unsigned bits. -/
  | outOfRange (name : String) (value : Int)
deriving DecidableEq, Repr

def ConstantFault.message : ConstantFault → String
  | invalidName fault => fault.message
  | notInteger name className =>
    "Integer constant " ++ quoted name ++ " must be an int, got " ++ className
  | notString name className =>
    "String constant " ++ quoted name ++ " must be a str, got " ++ className
  | outOfRange name value =>
    "Integer constant " ++ quoted name ++ "=" ++ toString value
      ++ " is outside the unsigned 64-bit range"

/-- The unsigned 64-bit integer that an integer is, if it is one. -/
def unsigned? (value : Int) : Option Nat :=
  if 0 ≤ value ∧ value < integerModulus then some value.toNat else none

theorem lt_of_unsigned? {value : Int} {number : Nat} (h : unsigned? value = some number) :
    number < integerModulus := by
  unfold unsigned? at h
  split at h
  · simp only [Option.some.injEq] at h
    omega
  · simp at h

theorem unsigned?_natCast {value : Nat} (fits : value < integerModulus) :
    unsigned? (value : Int) = some value := by
  have inRange : (value : Int) < integerModulus := Int.ofNat_lt.mpr fits
  simp [unsigned?, inRange]

namespace Constants

/-- What a name stands for: integers come first. -/
def lookup? (constants : Constants) (name : String) : Option Constant :=
  match constants.integers.get? name with
  | some value => some (.integer value)
  | none => (constants.strings.get? name).map .string

def has (constants : Constants) (name : String) : Bool :=
  constants.integers.has name || constants.strings.has name

def count (constants : Constants) : Nat :=
  constants.integers.length + (constants.strings.names.filter (!constants.integers.has ·)).length

def shown (constants : Constants) : String :=
  "ConstantTable(integers=" ++ quotedList constants.integers.sortedNames
    ++ ", strings=" ++ quotedList constants.strings.sortedNames ++ ")"

/-- The warning that a name is registered again, if it was in the table. -/
def overwriteNotice {α : Type} (use : NameUse) (table : Table α) (name : String) : List Notice :=
  if table.has name then [.overwritten use name] else []

def setInteger (constants : Constants) (name : String) (value : Nat) : Constants × List Notice :=
  ({ constants with integers := constants.integers.insert name value },
    overwriteNotice .integer constants.integers name ++ [.integerRegistered name value])

def setString (constants : Constants) (name value : String) : Constants × List Notice :=
  ({ constants with strings := constants.strings.insert name value },
    overwriteNotice .string constants.strings name ++ [.stringRegistered name value])

def registerInteger (constants : Constants) (name value : Value) :
    Except ConstantFault (Constants × List Notice) :=
  match name.asName "constant" with
  | .error fault => .error (.invalidName fault)
  | .ok name =>
    match value with
    | .integer number =>
      match unsigned? number with
      | some unsigned => .ok (constants.setInteger name unsigned)
      | none => .error (.outOfRange name number)
    | other => .error (.notInteger name other.className)

def registerString (constants : Constants) (name value : Value) :
    Except ConstantFault (Constants × List Notice) :=
  match name.asName "constant" with
  | .error fault => .error (.invalidName fault)
  | .ok name =>
    match value.text? with
    | some content => .ok (constants.setString name content)
    | none => .error (.notString name value.className)

end Constants

end FieldRules
