/-
  FieldRules/CommandLine/Run.lean
  ===============================
  **Running the commands.**

  A mistake in rules or constants is told in one line and ends a command with
  the code 1, as does a value that fails a check.  Other errors end it with the
  same code and without a word.
-/
import FieldRules.CommandLine.Request
import FieldRules.CommandLine.Screen
import FieldRules.Engine.Operations
import FieldRules.Grammar

namespace FieldRules.CommandLine

open FieldRules.Text

def failure (title : String) (error : Error) : Screen :=
  if error.isConfiguration then
    let markup := Markup.coloured "red" (title ++ ":") ++ " " ++ Markup.escape error.message
    { code := 1, errors := (screenLines? markup).getD [] }
  else { code := 1 }

/-- The screen of a command that shows marked-up text and ends with a code; without a
    word, and with the code 1, if the text ends what is not open. -/
def telling (code : Nat) (markup : String) : Screen :=
  match screenLines? markup with
  | some lines => { code := code, lines := lines.map trimLine }
  | none => { code := 1 }

def cell (items : List String) : String := ", ".intercalate items

/-- Text from outside in a cell of a table, in which control characters have no place either. -/
def shownCell (text : String) : String :=
  String.ofList (((Markup.shown? (Markup.escape text)).getD "").toList.filter (!isMove ·))

def showArguments (text : String) : Screen :=
  match Arguments.parse text with
  | .error fault => failure "Syntax error" (.build (.malformed fault))
  | .ok arguments =>
    { table :=
        [["Kind", "Values"],
          ["integers", cell (arguments.integers.map toString)],
          ["strings", shownCell (cell (arguments.strings.map quoted))],
          ["symbols", cell arguments.symbols]] }

def showValidators : Screen :=
  let engine := (Engine.create true).1
  { table := ["Name", "Description"] :: engine.factories.sortedNames.map fun name =>
      [name, ((Builtin.ofName? name).map Builtin.summary).getD ""] }

/-- The version with what the program runs on, of which nothing is told. -/
def showVersion : Screen :=
  { lines := ["ruletag   v" ++ Grammar.version, "Python *", "Platform *"] }

def showVersionLine : Screen := { lines := ["cli, version " ++ Grammar.version] }

/-- A new engine with the constants of a file, if one is asked for, and what is
    noted on the way. -/
def prepare (constants : Option String) (read : FilePath → FileContent) :
    List Notice × Except Error Engine :=
  let (engine, notices) := Engine.create true
  match constants.filter (!·.isEmpty) with
  | none => (notices, .ok engine)
  | some path =>
    let loading := engine.loadConstants path read
    match loading.result with
    | .error error => (notices ++ loading.notices, .error error)
    | .ok count =>
      (notices ++ loading.notices ++ [.constantsLoaded count path], .ok loading.engine)

/-- Whether a rule can be built, as far as that is asked for. -/
inductive Status where
  | parsed
  | unknown
  | built
  | failed (error : Error)
deriving Repr

namespace Status

def ofRule (engine : Engine) (declared : Option Declared) (rule : Rule) : Status :=
  match declared with
  | none => if engine.factories.has rule.name then parsed else unknown
  | some type =>
    match engine.compile rule.invocation.render type.fieldType "value" with
    | .ok _ => built
    | .error fault => failed (.build fault)

def wording : Status → String
  | parsed => "parsed"
  | unknown => "unknown validator"
  | built => "built"
  | failed error => error.message

def isFailure : Status → Bool
  | failed _ => true
  | _ => false

/-- Whether the rule could not be built for another reason than its configuration. -/
def isCrash : Status → Bool
  | failed error => !error.isConfiguration
  | _ => false

end Status

def ruleRow (index : Nat) (rule : Rule) (status : Status) : List String :=
  [toString index, rule.name, cell (rule.arguments.integers.map toString),
    shownCell (cell (rule.arguments.strings.map quoted)), cell rule.arguments.symbols,
    shownCell status.wording]

def ruleRows : Nat → List (Rule × Status) → List (List String)
  | _, [] => []
  | index, (rule, status) :: rest => ruleRow index rule status :: ruleRows (index + 1) rest

def showRules (engine : Engine) (text : String) (declared : Option Declared) : Screen :=
  match Rule.parse text with
  | .error fault => failure "Syntax error" (.build (.malformed fault))
  | .ok rules =>
    let judged := rules.map fun rule => (rule, Status.ofRule engine declared rule)
    if judged.any (·.2.isCrash) then { code := 1 }
    else
      { code := if judged.any (·.2.isFailure) then 1 else 0
        table := ["#", "Rule", "Integers", "Strings", "Symbols", "Status"] :: ruleRows 1 judged }

def convert (declared : Declared) (word : String) : Value :=
  match declared with
  | .str => .text word
  | .int =>
    match Number.readInteger word with
    | .ok value => .integer value
    | .error _ => .text word

/-- The verdict on a value, in words. -/
def showCheck (engine : Engine) (text value : String) (declared : Declared) (name : String) :
    Screen :=
  match engine.compile text declared.fieldType name with
  | .error fault => failure "Configuration error" (.build fault)
  | .ok validator =>
    match (validator.run (convert declared value)).verdict with
    | .ok none =>
      telling 0 (Markup.coloured "green" "OK" ++ " " ++ Markup.escape (quoted value)
        ++ " passes " ++ Markup.escape text)
    | .ok (some found) =>
      telling 1 (Markup.coloured "red" "FAIL" ++ " " ++ Markup.escape found.render)
    | .error _ => { code := 1 }

/-- Shows what a command shows with an engine, behind what is noted on the way, if
    that is asked for. -/
def withEngine (verbose : Bool) (constants : Option String) (read : FilePath → FileContent)
    (present : Engine → Screen) : Screen :=
  let (notices, prepared) := prepare constants read
  let noted := if verbose then notices.flatMap (visibleLines ·.logLine) else []
  let screen := match prepared with
    | .error error => failure "Config error" error
    | .ok engine => present engine
  { screen with errors := noted ++ screen.errors }

def runCommand (verbose : Bool) (read : FilePath → FileContent) : Command → Screen
  | .arguments text => showArguments text
  | .rules text constants declared =>
    withEngine verbose constants read fun engine => showRules engine text declared
  | .check text value constants declared name =>
    withEngine verbose constants read fun engine => showCheck engine text value declared name
  | .validators => withEngine verbose none read fun _ => showValidators
  | .version => showVersion

def run (words : List String) (read : FilePath → FileContent) : Screen :=
  match request words with
  | .misuse => { code := 2 }
  | .help => {}
  | .versionLine => showVersionLine
  | .run verbose command => runCommand verbose read command

end FieldRules.CommandLine
