/-
  FieldRules/Value/Basic.lean
  ===========================
  **The values that rules are run against.**

  Rules meet any value at all: they judge integers and texts, look into
  records, and answer for every other value with the name of its class.  The
  values that rules cannot look into (`object`) are therefore known by their
  class name, their printed form, their plain text and whether they are empty.

  Constants documents are read into the same values.
-/
import FieldRules.Number.Binary64
import FieldRules.Text.Message

namespace FieldRules

open FieldRules.Text

/-- The identity of a record class.  Two definitions of a class are different
    classes, whatever their names, so a class is told apart by its number; the
    ancestors are the numbers of the classes that it extends.  The names of its
    fields are those that its records are printed with. -/
structure RecordClass where
  id : Nat
  name : String
  qualifiedName : String
  moduleName : String := ""
  ancestors : List Nat
  fieldNames : List String := []
deriving DecidableEq, Repr

/-- A value of any class. -/
inductive Value where
  | none
  | bool (value : Bool)
  | integer (value : Int)
  | float (value : Binary64)
  | text (content : String)
  /-- A text of a class that refines the class of texts. -/
  | namedText (className content : String)
  | list (items : List Value)
  /-- A mapping, in the order in which its keys came first. -/
  | mapping (entries : List (Value × Value))
  /-- A class, as a value. -/
  | classObject (name : String)
  /-- A record, with the attributes that can be read off it. -/
  | record (cls : RecordClass) (attributes : List (String × Value))
  /-- Any other value. -/
  | object (className shown plain : String) (empty : Bool)
deriving Repr

namespace Value

def className : Value → String
  | none => "NoneType"
  | bool _ => "bool"
  | integer _ => "int"
  | float _ => "float"
  | text _ => "str"
  | namedText name _ => name
  | list _ => "list"
  | mapping _ => "dict"
  | classObject _ => "type"
  | record cls _ => cls.name
  | object name _ _ _ => name

def qualifiedClassName : Value → String
  | record cls _ => cls.qualifiedName
  | value => value.className

/-- The characters of a text, whatever its class. -/
def text? : Value → Option String
  | text content => some content
  | namedText _ content => some content
  | _ => Option.none

/-- Whether the value counts as nothing: zero, empty, false or absent. -/
def isFalsy : Value → Bool
  | none => true
  | bool value => !value
  | integer value => value == 0
  | float value => value.isZero
  | text content => content.isEmpty
  | namedText _ content => content.isEmpty
  | list items => items.isEmpty
  | mapping entries => entries.isEmpty
  | classObject _ => false
  | record _ _ => false
  | object _ _ _ empty => empty

def isInstanceOf (cls : RecordClass) : Value → Bool
  | record own _ => own.id == cls.id || own.ancestors.contains cls.id
  | _ => false

/-- How many bytes of the name of a class a message about a missing attribute shows. -/
def shownClassBytes : Nat := 50

def missingAttributeMessage (className name : String) : String :=
  "'" ++ cutBytes shownClassBytes className ++ "' object has no attribute '" ++ name ++ "'"

def attribute? (name : String) : Value → Option Value
  | record _ attributes => attributes.lookup name
  | _ => Option.none

end Value

end FieldRules
