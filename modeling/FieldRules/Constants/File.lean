/-
  FieldRules/Constants/File.lean
  ==============================
  **Reading the constants that a file defines.**

  The name of a file decides how it is read: with the suffix `.json` as a JSON
  document, otherwise as a YAML document.  A document that counts as nothing
  defines no constants.
-/
import FieldRules.Constants.Document
import FieldRules.Constants.FileName
import FieldRules.Json.Reader
import FieldRules.Text.Utf8
import FieldRules.Yaml.Document

namespace FieldRules

open FieldRules.Text

inductive FileFault where
  | unreadable (file : String) (problem : FileProblem)
  /-- The name of the file has a character that names cannot have. -/
  | impossibleName
  /-- The bytes of the file are no text. -/
  | undecodable (fault : Utf8.Fault)
  | malformedJson (file : String) (problem : Json.Problem) (position line column : Nat)
  /-- A JSON document is well-formed, but an integer in it has too many digits, or
      it is nested too deeply. -/
  | json (fault : Json.Fault)
  | malformedYaml (file : String)
  /-- A YAML document is well-formed, but a scalar in it has no value. -/
  | scalar (fault : Yaml.Fault)
  | document (fault : DocumentFault)
deriving Repr

def FileFault.message : FileFault → String
  | unreadable file problem =>
    "Cannot read constants file " ++ file ++ ": " ++ problem.message file
  | impossibleName => "embedded null byte"
  | undecodable fault => fault.message
  | malformedJson file problem position line column =>
    "Cannot parse constants file " ++ file ++ ": "
      ++ (Json.Fault.malformed problem position line column).message
  | json fault => fault.message
  | malformedYaml file => "Cannot parse constants file " ++ file
  | scalar fault => fault.message
  | document fault => fault.message

/-- Whether the fault is one of the configuration: the file cannot be read or
    parsed, or has another shape than constants have. -/
def FileFault.isConfiguration : FileFault → Bool
  | unreadable _ _ => true
  | malformedJson _ _ _ _ _ => true
  | malformedYaml _ => true
  | document .tooLongToShow => false
  | document _ => true
  | _ => false

namespace Constants

def hasSections : Value → Bool
  | .mapping entries => isSectioned entries
  | _ => false

/-- The value of a YAML document, as seen from inside of the mapping or of the
    sections that hold the constants. -/
def valueOfYaml (document : Yaml.Document) : Value :=
  let flat := document.value 1
  if hasSections flat then document.value 2 else flat

def readDocument (path : FilePath) (content : FileContent) : Except FileFault Value :=
  match content with
  | .error problem => .error (.unreadable path.render problem)
  | .ok bytes =>
    match Utf8.decode bytes with
    | .error fault => .error (.undecodable fault)
    | .ok characters =>
      let text := unifyLineEnds characters
      if path.suffix == ".json" then
        match Json.parse text with
        | .ok value => .ok value
        | .error (.malformed problem position line column) =>
          .error (.malformedJson path.render problem position line column)
        | .error fault => .error (.json fault)
      else
        match Yaml.parse text with
        | .ok document => .ok (valueOfYaml document)
        | .error .malformed => .error (.malformedYaml path.render)
        | .error fault => .error (.scalar fault)

/-- The constants that a file defines, by the text of its path and what is read there. -/
def ofFile (name : String) (read : FilePath → FileContent) : Except FileFault Constants :=
  if name.toList.contains '\x00' then .error .impossibleName
  else
    let path := FilePath.ofText name
    match readDocument path (read path) with
    | .error fault => .error fault
    | .ok value =>
      let document := if value.isFalsy then .mapping [] else value
      match ofDocument path.render document with
      | .ok constants => .ok constants
      | .error fault => .error (.document fault)

end Constants

end FieldRules
