/-
  FieldRules/Value/Shown.lean
  ===========================
  **The printed form of values, and their use as mapping keys.**

  Messages show a value the way it would be written in source: texts quoted,
  floating-point numbers with the fewest digits, lists and mappings item by
  item.  As a key of a mapping, a number is the same whether it is held as a
  truth value, an integer or a floating-point number.
-/
import FieldRules.Number.Numeral
import FieldRules.Value.Basic

namespace FieldRules.Value

open FieldRules.Text

mutual

def shown : Value → String
  | none => "None"
  | bool value => if value then "True" else "False"
  | integer value => toString value
  | float value => value.render
  | text content => quoted content
  | namedText _ content => quoted content
  | list items => "[" ++ ", ".intercalate (shownItems items) ++ "]"
  | mapping entries => "\x7b" ++ ", ".intercalate (shownEntries entries) ++ "\x7d"
  | classObject name => "<class '" ++ name ++ "'>"
  | record cls attributes =>
    let printed := shownAttributes attributes
    let fields := cls.fieldNames.map fun name => name ++ "=" ++ (printed.lookup name).getD ""
    cls.qualifiedName ++ "(" ++ ", ".intercalate fields ++ ")"
  | object _ shownForm _ _ => shownForm

def shownItems : List Value → List String
  | [] => []
  | item :: rest => item.shown :: shownItems rest

def shownEntries : List (Value × Value) → List String
  | [] => []
  | (key, value) :: rest => (key.shown ++ ": " ++ value.shown) :: shownEntries rest

def shownAttributes : List (String × Value) → List (String × String)
  | [] => []
  | (name, value) :: rest => (name, value.shown) :: shownAttributes rest

end

inductive ShowFault where
  /-- An integer in it has too many digits. -/
  | tooLong
  /-- A record in it, of a class with this name, lacks an attribute that it is printed with. -/
  | missingAttribute (className name : String)
deriving DecidableEq, Repr

def ShowFault.message : ShowFault → String
  | tooLong => Number.tooLongToWrite
  | missingAttribute className name => missingAttributeMessage className name

mutual

/-- The first thing in the way of printing a value, if there is one. -/
def showFault? : Value → Option ShowFault
  | integer value =>
    if value.natAbs < Number.power 10 Number.maxDigits then Option.none else some .tooLong
  | list items => itemFault? items
  | mapping entries => entryFault? entries
  | record cls attributes =>
    let faults := attributeFaults attributes
    cls.fieldNames.findSome? fun name =>
      (faults.lookup name).getD (some (.missingAttribute cls.name name))
  | _ => Option.none

def itemFault? : List Value → Option ShowFault
  | [] => Option.none
  | item :: rest => item.showFault?.or (itemFault? rest)

def entryFault? : List (Value × Value) → Option ShowFault
  | [] => Option.none
  | (key, value) :: rest => key.showFault?.or (value.showFault?.or (entryFault? rest))

def attributeFaults : List (String × Value) → List (String × Option ShowFault)
  | [] => []
  | (name, value) :: rest => (name, value.showFault?) :: attributeFaults rest

end

def isShowable (value : Value) : Bool := value.showFault?.isNone

/-- The value as plain text: a text is its own, most other values their printed form. -/
def plainText : Value → String
  | text content => content
  | namedText _ content => content
  | object _ _ plain _ => plain
  | value => value.shown

/-- The integer that a value is equal to as a key, if there is one. -/
def integer? : Value → Option Int
  | bool value => some (if value then 1 else 0)
  | integer value => some value
  | float value => value.toInt?
  | _ => Option.none

def sameKey (first second : Value) : Bool :=
  match first, second with
  | none, none => true
  | object className₁ shown₁ _ _, object className₂ shown₂ _ _ =>
    className₁ == className₂ && shown₁ == shown₂
  | float a, float b => a.sameNumber b
  | a, b =>
    match a.text?, b.text? with
    | some content₁, some content₂ => content₁ == content₂
    | _, _ =>
      match a.integer?, b.integer? with
      | some value₁, some value₂ => value₁ == value₂
      | _, _ => false

/-- Sets a key of a mapping: a new key comes last, a known one keeps its place
    and its first spelling. -/
def insertEntry (key value : Value) : List (Value × Value) → List (Value × Value)
  | [] => [(key, value)]
  | (known, old) :: rest =>
    if known.sameKey key then (known, value) :: rest
    else (known, old) :: insertEntry key value rest

/-- The mapping with given entries, later ones taking the place of earlier ones
    with the same key. -/
def mappingOf (entries : List (Value × Value)) : Value :=
  mapping (entries.foldl (fun table entry => insertEntry entry.1 entry.2 table) [])

end FieldRules.Value
