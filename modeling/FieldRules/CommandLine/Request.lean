/-
  FieldRules/CommandLine/Request.lean
  ===================================
  **What a command line asks for.**

  Options that concern the whole program stand before the command, all others
  behind it.  A command line that asks for nothing that there is, or says too
  much or too little, is misused.
-/
import FieldRules.CommandLine.Options
import FieldRules.Record.FieldType

namespace FieldRules.CommandLine

/-- The types that a field can be declared with on a command line. -/
inductive Declared where
  | int
  | str
deriving DecidableEq, Repr

namespace Declared

def fieldType : Declared → FieldType
  | int => .plain "int" false
  | str => .plain "str" true

/-- A letter without its case; the long s is one more form of an s. -/
def foldCase (c : Char) : Char := if c == 'ſ' then 's' else c.toLower

/-- The type that a word names, in whatever case. -/
def ofWord? (word : String) : Option Declared :=
  match String.ofList (word.toList.map foldCase) with
  | "int" => some int
  | "str" => some str
  | _ => none

end Declared

inductive Command where
  /-- Shows the arguments that a text has. -/
  | arguments (text : String)
  /-- Shows the rules that a text has, and whether they can be built. -/
  | rules (text : String) (constants : Option String) (declared : Option Declared)
  /-- Checks a value against rules. -/
  | check (text value : String) (constants : Option String) (declared : Declared) (name : String)
  /-- Shows the rules that there are. -/
  | validators
  /-- Shows the version. -/
  | version
deriving DecidableEq, Repr

inductive Request where
  /-- It cannot be made out. -/
  | misuse
  | help
  /-- The version in one line. -/
  | versionLine
  | run (verbose : Bool) (command : Command)
deriving DecidableEq, Repr

def programOptions : List OptionForm :=
  [{ name := "version" }, { name := "verbose", letter := some 'v' }, { name := "help" }]

def helpOption : OptionForm := { name := "help" }

def constantsOption : OptionForm :=
  { name := "constants", letter := some 'c', takesValue := true }

def typeOption : OptionForm := { name := "type", takesValue := true }

def nameOption : OptionForm := { name := "name", takesValue := true }

def optionsOf? : String → Option (List OptionForm)
  | "args" => some [helpOption]
  | "rules" => some [helpOption, constantsOption, typeOption]
  | "check" => some [helpOption, constantsOption, typeOption, nameOption]
  | "validators" => some [helpOption]
  | "version" => some [helpOption]
  | _ => none

/-- The type that was asked for, if there is one; an unknown one is a misuse. -/
def declaredType (words : Words) : Option (Option Declared) :=
  match words.value? "type" with
  | none => some none
  | some word => (Declared.ofWord? word).map some

def commandOf (name : String) (words : Words) : Option Command :=
  match declaredType words with
  | none => none
  | some declared =>
    match name, words.arguments with
    | "args", [text] => some (.arguments text)
    | "rules", [text] => some (.rules text (words.value? "constants") declared)
    | "check", [text, value] =>
      some (.check text value (words.value? "constants") (declared.getD .str)
        ((words.value? "name").getD "value"))
    | "validators", [] => some .validators
    | "version", [] => some .version
    | _, _ => none

def commandRequest (verbose : Bool) (name : String) (words : List String) : Request :=
  match optionsOf? name with
  | none => .misuse
  | some forms =>
    match readWords forms true words with
    | none => .misuse
    | some read =>
      if read.has "help" then .help
      else match commandOf name read with
        | some command => .run verbose command
        | none => .misuse

def request (words : List String) : Request :=
  match readWords programOptions false words with
  | none => .misuse
  | some read =>
    if read.has "version" then .versionLine
    else if read.has "help" then .help
    else match read.arguments with
      | [] => .misuse
      | name :: rest => commandRequest (read.has "verbose") name rest

def Request.constants? : Request → Option String
  | run _ (.rules _ constants _) => constants.filter (!·.isEmpty)
  | run _ (.check _ _ constants _ _) => constants.filter (!·.isEmpty)
  | _ => none

end FieldRules.CommandLine
