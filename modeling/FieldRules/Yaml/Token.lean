/-
  FieldRules/Yaml/Token.lean
  ==========================
  **Tokens of YAML documents, and what can be wrong with a document.**
-/
namespace FieldRules.Yaml

inductive Directive where
  | version (major minor : Nat)
  | tagHandle (handle uri : String)
  | reserved
deriving DecidableEq, Repr

inductive Token where
  | directive (content : Directive)
  | documentStart
  | documentEnd
  | streamEnd
  | blockSequenceStart
  | blockMappingStart
  | blockEnd
  | flowSequenceStart
  | flowSequenceEnd
  | flowMappingStart
  | flowMappingEnd
  | blockEntry
  | flowEntry
  | key
  | value
  | alias (name : String)
  | anchor (name : String)
  /-- A tag with the handle it begins with, if it is not written in full. -/
  | tag (handle : Option String) (suffix : String)
  /-- A scalar, and whether it stands without quotes and block indicators. -/
  | scalar (content : String) (plain : Bool)
deriving DecidableEq, Repr

/-- Why a date or time is not one of the calendar. -/
inductive TimeProblem where
  | year (year : Nat)
  | month
  | day
  | hour
  | minute
  | second
  /-- The offset from universal time, in minutes, is a day or more. -/
  | offset (negative : Bool) (minutes : Nat)
deriving DecidableEq, Repr

/-- Why a document is not read. -/
inductive Fault where
  /-- It breaks the rules of the language. -/
  | malformed
  /-- An escape has a code point beyond the last one, or even beyond 31 bits. -/
  | codePointTooLarge (beyondWord : Bool)
  /-- A scalar that is tagged as an integer has no digits of the base. -/
  | notInteger (base : Nat) (text : String)
  /-- An integer has this many digits, which are too many to read. -/
  | integerTooLong (digits : Nat)
  /-- A scalar that is tagged as a number is empty. -/
  | emptyNumber
  /-- A scalar that is tagged as a floating-point number is none. -/
  | notFloat (text : String)
  /-- A floating-point number in sixtieths has too many parts. -/
  | weightTooLarge
  /-- A scalar that is tagged as a truth value is none. -/
  | notTruthValue (text : String)
  /-- A scalar that is tagged as a time is not written like one. -/
  | notTime
  /-- What is tagged as a time is a mapping. -/
  | timeIsMapping
  /-- It is nested too deeply, or even without an end. -/
  | tooDeep
  | badTime (problem : TimeProblem)
deriving DecidableEq, Repr

end FieldRules.Yaml
