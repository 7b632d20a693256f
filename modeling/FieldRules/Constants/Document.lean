/-
  FieldRules/Constants/Document.lean
  ==================================
  **The constants that a document defines.**

  A document of constants is a mapping of one of two shapes.  If all its keys
  are among `integers` and `strings`, each of these is a section, a mapping of
  its own or nothing, and holds constants of its kind alone.  Any other mapping
  holds constants of both kinds, told apart by their values.

  The name of a constant is the plain text of its key.
-/
import FieldRules.Constants.Basic

namespace FieldRules

open FieldRules.Text

/-- What is wrong with a document of constants.  The source is where it comes from. -/
inductive DocumentFault where
  /-- The document is a value of another class than a mapping. -/
  | notMapping (source className : String)
  /-- A section is something else than a mapping. -/
  | sectionNotMapping (source sectionName : String)
  /-- An integer has no place in 64 unsigned bits. -/
  | outOfRange (source name : String) (value : Int)
  /-- A value is no constant of the kind that can stand there. -/
  | unsupportedValue (source name : String) (value : Value)
  /-- A name or a value is too long to be shown. -/
  | tooLongToShow
deriving Repr

def DocumentFault.message : DocumentFault → String
  | notMapping source className =>
    source ++ ": constants must be a mapping, got " ++ className
  | sectionNotMapping source sectionName =>
    source ++ ": " ++ quoted sectionName ++ " must be a mapping"
  | outOfRange source name value =>
    source ++ ": integer constant " ++ quoted name ++ "=" ++ toString value
      ++ " is outside the unsigned 64-bit range"
  | unsupportedValue source name value =>
    source ++ ": constant " ++ quoted name ++ " has unsupported value " ++ value.shown
  | tooLongToShow => Number.tooLongToWrite

namespace Constants

/-- The kinds of constants, as sections of a document. -/
inductive Kind where
  | integers
  | strings
deriving DecidableEq, Repr

def Kind.sectionName : Kind → String
  | .integers => "integers"
  | .strings => "strings"

/-- A fault, unless the value that it is about is too long to be shown. -/
def faultAbout (value : Value) (fault : DocumentFault) : DocumentFault :=
  if value.isShowable then fault else .tooLongToShow

/-- Adds the constant that a value is, where constants of one kind may be asked for. -/
def addValue (source : String) (expected : Option Kind) (constants : Constants) (name : String)
    (value : Value) : Except DocumentFault Constants :=
  let unsupported := Except.error (faultAbout value (.unsupportedValue source name value))
  match value with
  | .integer number =>
    if expected == some .strings then unsupported
    else match unsigned? number with
      | some unsigned =>
        .ok { constants with integers := constants.integers.insert name unsigned }
      | none => .error (faultAbout value (.outOfRange source name number))
  | other =>
    match other.text? with
    | some content =>
      if expected == some .integers then unsupported
      else .ok { constants with strings := constants.strings.insert name content }
    | none => unsupported

def addEntries (source : String) (expected : Option Kind) (constants : Constants) :
    List (Value × Value) → Except DocumentFault Constants
  | [] => .ok constants
  | (key, value) :: rest =>
    if !key.isShowable then .error .tooLongToShow
    else match addValue source expected constants key.plainText value with
      | .error fault => .error fault
      | .ok more => addEntries source expected more rest

def isSectionKey (key : Value) : Bool :=
  match key.text? with
  | some text => text == Kind.integers.sectionName || text == Kind.strings.sectionName
  | none => false

def isSectioned (entries : List (Value × Value)) : Bool :=
  !entries.isEmpty && entries.all fun entry => isSectionKey entry.1

/-- Adds the constants of a section; one that is missing or counts as nothing has none. -/
def addSection (source : String) (entries : List (Value × Value)) (kind : Kind)
    (constants : Constants) : Except DocumentFault Constants :=
  match entries.find? fun entry => entry.1.text? == some kind.sectionName with
  | none => .ok constants
  | some (_, content) =>
    if content.isFalsy then .ok constants
    else match content with
      | .mapping inner => addEntries source (some kind) constants inner
      | _ => .error (.sectionNotMapping source kind.sectionName)

def ofDocument (source : String) (document : Value) : Except DocumentFault Constants :=
  match document with
  | .mapping entries =>
    if isSectioned entries then
      match addSection source entries .integers {} with
      | .error fault => .error fault
      | .ok integers => addSection source entries .strings integers
    else addEntries source none {} entries
  | other => .error (.notMapping source other.className)

end Constants

end FieldRules
