/-
  FieldRules/Constants/FileName.lean
  ==================================
  **The names of files, and what a directory holds under them.**

  A path is known by its parts: separators that are repeated or stand at the
  end change nothing, and neither do parts that mean "here".  A path that has
  no parts left means the directory itself.
-/
import FieldRules.Text.Message

namespace FieldRules

open FieldRules.Text

/-- A path: how many separators it begins with, none for a relative one, and
    its parts. -/
structure FilePath where
  root : Nat
  parts : List String
deriving DecidableEq, Repr

namespace FilePath

/-- The path that a text spells.  Two separators at the start are kept apart
    from one; more of them are the same as one. -/
def ofText (text : String) : FilePath :=
  let leading := (text.toList.takeWhile (· == '/')).length
  { root := if leading == 2 then 2 else min leading 1
    parts := (text.splitOn "/").filter fun part => part != "" && part != "." }

def render (path : FilePath) : String :=
  let body := "/".intercalate path.parts
  if path.root == 0 && path.parts.isEmpty then "."
  else String.ofList (List.replicate path.root '/') ++ body

/-- The last part of a path from its last point on, which may be neither the
    first nor the last character of it. -/
def suffix (path : FilePath) : String :=
  let name := (path.parts.getLastD "").toList
  let afterPoint := (name.reverse.takeWhile (· != '.')).reverse
  if !name.contains '.' || afterPoint.isEmpty || afterPoint.length + 1 == name.length then ""
  else String.ofList ('.' :: afterPoint)

end FilePath

/-- Why a file cannot be read. -/
inductive FileProblem where
  | notFound
  | notDirectory
  | isDirectory
  | nameTooLong
deriving DecidableEq, Repr

namespace FileProblem

def number : FileProblem → Nat
  | notFound => 2
  | notDirectory => 20
  | isDirectory => 21
  | nameTooLong => 36

def wording : FileProblem → String
  | notFound => "No such file or directory"
  | notDirectory => "Not a directory"
  | isDirectory => "Is a directory"
  | nameTooLong => "File name too long"

def message (problem : FileProblem) (file : String) : String :=
  "[Errno " ++ toString problem.number ++ "] " ++ problem.wording ++ ": " ++ quoted file

end FileProblem

/-! ### Directories -/

/-- The bytes of a file, or why it cannot be read. -/
abbrev FileContent := Except FileProblem (List Nat)

/-- What a directory and those below it hold: files, by the parts of their paths. -/
abbrev Directory := List (List String × List Nat)

namespace Directory

def hasDirectory (directory : Directory) (parts : List String) : Bool :=
  parts.isEmpty || directory.any fun file =>
    parts.length < file.1.length && parts.isPrefixOf file.1

def hasFile (directory : Directory) (parts : List String) : Bool :=
  directory.any fun file => file.1 == parts

/-- Follows the parts of a path from a place in the directory.  Steps up from
    the top lead to directories of which nothing else is known. -/
def follow (directory : Directory) (place : List String) : List String → FileContent
  | [] =>
    match directory.find? fun file => file.1 == place with
    | some (_, bytes) => .ok bytes
    | none => .error .isDirectory
  | part :: rest =>
    if directory.hasFile place then .error .notDirectory
    else if 255 < part.utf8ByteSize then .error .nameTooLong
    else if part == ".." then
      if place.isEmpty then
        .error (if rest.all (· == "..") then .isDirectory else .notFound)
      else follow directory place.dropLast rest
    else
      let next := place ++ [part]
      if directory.hasFile next || directory.hasDirectory next then follow directory next rest
      else .error .notFound

def read (directory : Directory) (path : FilePath) : FileContent :=
  if path.root == 0 then
    if 4095 < path.render.utf8ByteSize then .error .nameTooLong else directory.follow [] path.parts
  else if path.parts.all (· == "..") then .error .isDirectory
  else .error .notFound

end Directory

end FieldRules
