/-
  FieldRules/CommandLine/Options.lean
  ===================================
  **Options and arguments on a command line.**

  An option is written with two dashes and its name, or with one dash and a
  letter; letters of options without values may share a dash.  A value follows
  behind an equals sign, directly behind a letter, or as the next word, which
  may then begin with a dash itself.  Two dashes alone end the options, and a
  dash alone is an argument.
-/
namespace FieldRules.CommandLine

structure OptionForm where
  name : String
  letter : Option Char := none
  takesValue : Bool := false
deriving DecidableEq, Repr

/-- The options of a command line with their values, in order, and its arguments. -/
structure Words where
  options : List (String × String) := []
  arguments : List String := []
deriving DecidableEq, Repr

namespace Words

/-- The value that was given last to an option. -/
def value? (words : Words) (name : String) : Option String :=
  words.options.reverse.lookup name

def has (words : Words) (name : String) : Bool := (words.value? name).isSome

end Words

/-- What one word says: options with values, and an option that waits for its value. -/
structure WordOptions where
  given : List (String × String) := []
  waiting : Option String := none
deriving DecidableEq, Repr

def readLetters (forms : List OptionForm) : List Char → Option WordOptions
  | [] => some {}
  | c :: rest =>
    match forms.find? (·.letter == some c) with
    | none => none
    | some form =>
      if form.takesValue then
        if rest.isEmpty then some { waiting := some form.name }
        else some { given := [(form.name, String.ofList rest)] }
      else
        (readLetters forms rest).map fun more =>
          { more with given := (form.name, "") :: more.given }

def readName (forms : List OptionForm) (word : List Char) : Option WordOptions :=
  let name := String.ofList (word.takeWhile (· != '='))
  match forms.find? (·.name == name), word.dropWhile (· != '=') with
  | none, _ => none
  | some form, [] =>
    if form.takesValue then some { waiting := some name } else some { given := [(name, "")] }
  | some form, _ :: value =>
    if form.takesValue then some { given := [(name, String.ofList value)] } else none

/-- The options and arguments of words, or nothing if an option is unknown or
    lacks its value.  Where options may not follow arguments, everything behind
    the first argument is one. -/
def readWords (forms : List OptionForm) (mixed : Bool) : List String → Option Words
  | [] => some {}
  | word :: rest =>
    let follow (options : Option WordOptions) : Option Words :=
      match options with
      | none => none
      | some { given, waiting := none } =>
        (readWords forms mixed rest).map fun more =>
          { more with options := given ++ more.options }
      | some { given, waiting := some name } =>
        match rest with
        | [] => none
        | value :: others =>
          (readWords forms mixed others).map fun more =>
            { more with options := given ++ (name, value) :: more.options }
    match word.toList with
    | ['-', '-'] => some { arguments := rest }
    | '-' :: '-' :: name => follow (readName forms name)
    | '-' :: letter :: letters => follow (readLetters forms (letter :: letters))
    | _ =>
      if mixed then
        (readWords forms mixed rest).map fun more =>
          { more with arguments := word :: more.arguments }
      else some { arguments := word :: rest }

end FieldRules.CommandLine
