/-
  FieldRules/TypeText/Meaning.lean
  ================================
  **The types that annotations name.**

  The names in an annotation are looked up in a scope: records that are named
  for the occasion, records that are known everywhere, the words for making
  types out of types, and the classes and functions of the language.  The first
  unknown name from the left is the fault of the whole annotation.

  A text inside of an annotation is an annotation itself, which is only read
  when the type is resolved.  Types and references that stand deeper than
  `maxNesting` are outside of the fragment of annotations that is read, and so are
  members of types and values, parameters of values that may have some, values
  with a bar between them, and unions of types that can be the same although they
  are made otherwise.
-/
import FieldRules.TypeText.Expression
import FieldRules.Record.FieldType
import FieldRules.Table
import FieldRules.Value.Shown

namespace FieldRules.TypeText

open FieldRules.Text

/-- Why an annotation has no meaning. -/
inductive Fault where
  | malformed
  /-- It is outside of the fragment of annotations that is read: it may have a meaning. -/
  | beyond
  /-- It is empty. -/
  | empty
  | unknownName (name : String)
  /-- A value of a class has no such member. -/
  | noMember (className name : String)
  /-- A bar stands between things of these classes. -/
  | cannotJoin (first second : String)
  /-- A class is given parameters and takes none. -/
  | noClassParameters (name : String)
  /-- A value of a class is given parameters. -/
  | noParameters (className : String)
  /-- A word for making types stands without parameters. -/
  | bareWord (word : String)
  /-- An option is made of several types or of none. -/
  | oneTypeRequired (given : String)
  | noTypes
  | noteRequired
  /-- Several types stand where one is needed, as the place in question demands. -/
  | severalTypes (demand given : String)
deriving DecidableEq, Repr

def ReadFault.asFault : ReadFault → Fault
  | malformed => .malformed
  | beyond => .beyond

def shorten (text : String) : String := String.ofList (text.toList.take 100)

def Fault.message : Fault → String
  | malformed => "invalid syntax"
  | beyond => "unsupported annotation"
  | empty => "string index out of range"
  | unknownName name => "name " ++ quoted name ++ " is not defined"
  | noMember className name => Value.missingAttributeMessage className name
  | cannotJoin first second =>
    "unsupported operand type(s) for |: '" ++ cutBytes 100 first ++ "' and '"
      ++ cutBytes 100 second ++ "'"
  | noClassParameters name => "type '" ++ cutBytes 200 name ++ "' is not subscriptable"
  | noParameters className => "'" ++ cutBytes 200 className ++ "' object is not subscriptable"
  | bareWord word => "Plain typing." ++ word ++ " is not valid as type argument"
  | oneTypeRequired given => "typing.Optional requires a single type. Got " ++ shorten given ++ "."
  | noTypes => "Cannot take a Union of no types."
  | noteRequired =>
    "Annotated[...] should be used with at least two arguments (a type and an annotation)."
  | severalTypes demand given => demand ++ " Got " ++ shorten given ++ "."

/-! ### Scopes -/

/-- The records that names can refer to: those named for the occasion, if there is a
    list of them, come before those that are known everywhere.  Without such a list
    the attributes of the class at hand are known as well. -/
structure Scope where
  near : Option (List (String × RecordClass)) := none
  everywhere : List (String × RecordClass) := []
  attributes : Table Value := []
deriving Repr

def Scope.inClass (scope : Scope) (attributes : Table Value) : Scope :=
  if scope.near.isSome then scope else { scope with attributes := attributes }

inductive Word where
  | optional
  | union
  | annotated
deriving DecidableEq, Repr

def Word.spelling : Word → String
  | optional => "Optional"
  | union => "Union"
  | annotated => "Annotated"

/-- What an expression means. -/
inductive Meaning where
  | type (type : FieldType)
  | word (word : Word)
  | tuple (items : List Meaning)
deriving Repr

/-- The classes of the language that are no errors. -/
def classNames : List String :=
  ["int", "str", "float", "bool", "list", "dict", "bytes", "object", "tuple", "set", "frozenset",
    "complex", "bytearray", "range", "type", "memoryview", "slice", "property", "classmethod",
    "staticmethod", "super", "map", "filter", "zip", "enumerate", "reversed"]

def errorClassNames : List String :=
  ["ArithmeticError", "AssertionError", "AttributeError", "BaseException", "BaseExceptionGroup",
    "BlockingIOError", "BrokenPipeError", "BufferError", "BytesWarning", "ChildProcessError",
    "ConnectionAbortedError", "ConnectionError", "ConnectionRefusedError",
    "ConnectionResetError", "DeprecationWarning", "EOFError", "EncodingWarning", "Exception",
    "ExceptionGroup", "FileExistsError", "FileNotFoundError", "FloatingPointError",
    "FutureWarning", "GeneratorExit", "ImportError", "ImportWarning", "IndentationError",
    "IndexError", "InterruptedError", "IsADirectoryError", "KeyError", "KeyboardInterrupt",
    "LookupError", "MemoryError", "ModuleNotFoundError", "NameError", "NotADirectoryError",
    "NotImplementedError", "OSError", "OverflowError", "PendingDeprecationWarning",
    "PermissionError", "ProcessLookupError", "RecursionError", "ReferenceError",
    "ResourceWarning", "RuntimeError", "RuntimeWarning", "StopAsyncIteration", "StopIteration",
    "SyntaxError", "SyntaxWarning", "SystemError", "SystemExit", "TabError", "TimeoutError",
    "TypeError", "UnboundLocalError", "UnicodeDecodeError", "UnicodeEncodeError", "UnicodeError",
    "UnicodeTranslateError", "UnicodeWarning", "UserWarning", "ValueError", "Warning",
    "ZeroDivisionError"]

def classAliases : List (String × String) := [("EnvironmentError", "OSError"), ("IOError", "OSError")]

def functionNames : List String :=
  ["abs", "aiter", "all", "anext", "any", "ascii", "bin", "breakpoint", "callable", "chr",
    "compile", "delattr", "dir", "divmod", "eval", "exec", "format", "getattr", "globals",
    "hasattr", "hash", "hex", "id", "input", "isinstance", "issubclass", "iter", "len", "locals",
    "max", "min", "next", "oct", "open", "ord", "pow", "print", "repr", "round", "setattr",
    "sorted", "sum", "vars"]

def containerNames : List String :=
  ["list", "dict", "tuple", "set", "frozenset", "type", "enumerate", "BaseExceptionGroup",
    "ExceptionGroup"]

def standardMeaning? (name : String) : Option Meaning :=
  if classNames.contains name || errorClassNames.contains name then
    some (.type (.plain name (name == "str")))
  else if functionNames.contains name then some (.type (.function name))
  else if name == "Ellipsis" then some (.type (.literal name "ellipsis"))
  else if name == "NotImplemented" then some (.type (.literal name "NotImplementedType"))
  else (classAliases.lookup name).map fun className => .type (.plain className false)

/-- What a value means as an annotation: a text is one itself. -/
def meaningOfValue : Value → Meaning
  | .none => .type .absent
  | .text content => .type (.unresolved content)
  | .namedText _ content => .type (.unresolved content)
  | .classObject name => .type (.plain name false)
  | .object "tuple" _ _ _ => .tuple []
  | value => .type (.literal value.shown value.className)

def Scope.lookup? (scope : Scope) (name : String) : Option Meaning :=
  match ((scope.near.getD []).lookup name).or (scope.everywhere.lookup name) with
  | some cls => some (.type (.record cls))
  | none =>
    match [Word.optional, .union, .annotated].find? (·.spelling == name) with
    | some word => some (.word word)
    | none =>
      if name == "Any" then some (.type (.plain "Any" false))
      else ((scope.attributes.get? name).map meaningOfValue).or (standardMeaning? name)

/-! ### Printed forms -/

def shownType : FieldType → String
  | .plain "Any" _ => "typing.Any"
  | .plain "Annotated" _ => "<class 'typing.Annotated'>"
  | .plain name _ => "<class '" ++ name ++ "'>"
  | .record cls => "<class '" ++ cls.moduleName ++ "." ++ cls.qualifiedName ++ "'>"
  | .unresolved text => quoted text
  | type => type.shown

mutual

def Meaning.shown : Meaning → String
  | type inner => shownType inner
  | word .annotated => shownType (.plain "Annotated" false)
  | word inner => "typing." ++ inner.spelling
  | tuple [only] => "(" ++ only.shown ++ ",)"
  | tuple items => "(" ++ ", ".intercalate (shownAll items) ++ ")"

def Meaning.shownAll : List Meaning → List String
  | [] => []
  | item :: rest => item.shown :: shownAll rest

end

/-! ### Evaluation -/

/-- The annotation that a reference is.  One that begins with an asterisk is read as a tuple
    that is unpacked, which is outside of the fragment wherever its lines end. -/
def checkForward (text : String) : Except Fault Expression :=
  if text.isEmpty then .error .empty
  else if text.toList.head? == some '*' then .error .beyond
  else (parse text.toList).mapError ReadFault.asFault

def typeDemand : String := "Forward references must evaluate to types."

def unionDemand : String := "Union[arg, ...]: each arg must be a type."

def noteDemand : String := "Annotated[t, ...]: t must be a type."

def asPart (demand : String) (meaning : Meaning) : Except Fault FieldType :=
  match meaning with
  | .type (.unresolved text) => (checkForward text).map fun _ => .forward text
  | .type other => .ok other.asPart
  | .word .annotated => .ok (.plain "Annotated" false)
  | .word other => .error (.bareWord other.spelling)
  | .tuple items => .error (.severalTypes demand (Meaning.tuple items).shown)

def asParameter : Meaning → FieldType
  | .type type => type
  | .word .annotated => .plain "Annotated" false
  | .word word => .literal ("typing." ++ word.spelling) "_SpecialForm"
  | .tuple items => .literal (Meaning.tuple items).shown "tuple"

def numberClasses : List String := ["int", "float", "bool"]

/-- The classes of values that are read in an annotation and take no parameters. -/
def valueClasses : List String := numberClasses ++ ["ellipsis", "NotImplementedType"]

/-- One of several types by name, if the types can be told apart. -/
def oneOf (types : List FieldType) : Except Fault FieldType :=
  let parts := types.map FieldType.asPart
  if FieldType.canBeTold (parts.flatMap FieldType.unionMembers) then .ok (.oneOf types)
  else .error .beyond

/-- One of two types with a bar between them, if the types can be told apart. -/
def eitherOf (first second : FieldType) : Except Fault FieldType :=
  match first.orElse? second with
  | some type =>
    if FieldType.canBeTold (first.unionMembers ++ second.unionMembers) then .ok type
    else .error .beyond
  | none => .error (.cannotJoin first.className second.className)

/-- A type with notes; a value has no place of definition, as is needed for them. -/
def withNotes (type : FieldType) (notes : List String) : Except Fault FieldType :=
  match type with
  | .literal _ className => .error (.noMember className "__module__")
  | other => .ok (other.withNotes notes)

mutual

/-- Whether a meaning may be a note on a type of a union. -/
def Meaning.isSettled : Meaning → Bool
  | type (.literal _ className) =>
    numberClasses.contains className || FieldType.settledClasses.contains className
  | type inner => inner.isSettled
  | word _ => true
  | tuple items => areSettled items

def Meaning.areSettled : List Meaning → Bool
  | [] => true
  | item :: rest => item.isSettled && areSettled rest

end

/-- What is given parameters outside of the fragment is no class and no word. -/
def applyParameters (base parameter : Meaning) : Except Fault Meaning :=
  let parameters := match parameter with
    | .tuple items => items
    | only => [only]
  match base with
  | .word .optional =>
    match parameter with
    | .tuple items => .error (.oneTypeRequired (Meaning.tuple items).shown)
    | only => do return .type (← oneOf [← asPart typeDemand only, .absent])
  | .word .union =>
    if parameters.isEmpty then .error .noTypes
    else do return .type (← oneOf (← parameters.mapM (asPart unionDemand)))
  | .word .annotated =>
    match parameters with
    | first :: second :: notes => do
      if !(second :: notes).all Meaning.isSettled then throw .beyond
      return .type (← withNotes (← asPart noteDemand first) ((second :: notes).map (·.shown)))
    | _ => .error .noteRequired
  | .type (.plain name _) =>
    if containerNames.contains name then .ok (.type (.container name (parameters.map asParameter)))
    else .error (.noClassParameters name)
  | .type (.record cls) => .error (.noClassParameters cls.name)
  | .type .absent => .error (.noParameters FieldType.absent.className)
  | .type (.function name) => .error (.noParameters (FieldType.function name).className)
  | .type (.literal _ className) =>
    if valueClasses.contains className then .error (.noParameters className) else .error .beyond
  | .type _ => .error .beyond
  | .tuple _ => .error .beyond

def besideBar : Meaning → Meaning
  | .word .annotated => .type (.plain "Annotated" false)
  | other => other

/-- The meaning of two meanings with a bar between them.  Two values may have a meaning
    together that is no type. -/
def joinMeanings (first second : Meaning) : Except Fault Meaning := do
  match besideBar first, besideBar second with
  | .type (.literal _ _), .type (.literal _ _) => throw .beyond
  | .type left, .type right =>
    if left.makesNamedUnion || right.makesNamedUnion then
      return .type (← oneOf [← asPart unionDemand (.type left), ← asPart unionDemand (.type right)])
    else return .type (← eitherOf left right)
  | .word word, _ => throw (.bareWord word.spelling)
  | .type left, .word word => do
    let _ ← asPart unionDemand (.type left)
    throw (.bareWord word.spelling)
  | .tuple _, .type right =>
    throw (if right.makesNamedUnion then .beyond else .cannotJoin "tuple" right.className)
  | .type left, .tuple _ =>
    throw (if left.makesNamedUnion then .beyond else .cannotJoin left.className "tuple")
  | .tuple _, .word _ => throw .beyond
  | .tuple _, .tuple _ => throw (.cannotJoin "tuple" "tuple")

mutual

def evaluate (scope : Scope) : Expression → Except Fault Meaning
  | .name text =>
    match scope.lookup? text with
    | some meaning => .ok meaning
    | none => .error (.unknownName text)
  | .text content => .ok (.type (.unresolved content))
  | .literal shown className => .ok (.type (.literal shown className))
  | .absent => .ok (.type .absent)
  | .tuple items => (evaluateAll scope items).map .tuple
  | .list items =>
    (evaluateAll scope items).map fun meanings =>
      .type (.literal ("[" ++ ", ".intercalate (Meaning.shownAll meanings) ++ "]") "list")
  | .subscript base parameter => do
    let outer ← evaluate scope base
    let inner ← evaluate scope parameter
    applyParameters outer inner
  | .member base _ => do
    let _ ← evaluate scope base
    throw .beyond
  | .bar first second => do
    let left ← evaluate scope first
    let right ← evaluate scope second
    joinMeanings left right

def evaluateAll (scope : Scope) : List Expression → Except Fault (List Meaning)
  | [] => .ok []
  | item :: rest => do
    let meaning ← evaluate scope item
    let meanings ← evaluateAll scope rest
    return meaning :: meanings

end

/-! ### Resolving -/

/-- How deep types and references may stand inside of one another in a type that is resolved. -/
def maxNesting : Nat := 100

/-- A type with all references in it resolved, which stand at most so deep. -/
def resolveWithin (scope : Scope) : Nat → FieldType → Except Fault FieldType
  | 0, _ => .error .beyond
  | depth + 1, type =>
    match type with
    | .forward text => do
      let meaning ← evaluate scope (← checkForward text)
      resolveWithin scope depth (← asPart typeDemand meaning)
    | .union withBars members => do
      let parts ← members.mapM (resolveWithin scope depth)
      if withBars then
        match parts with
        | [] => return type
        | first :: rest => rest.foldlM eitherOf first
      else oneOf parts
    | .annotated inner notes => do withNotes (← resolveWithin scope depth inner) notes
    | .container name parameters => do
      let referring := parameters.map fun
        | .unresolved text => .forward text
        | other => other
      return .container name (← referring.mapM (resolveWithin scope depth))
    | other => .ok other

def resolveDeclared (scope : Scope) (type : FieldType) : Except Fault FieldType :=
  resolveWithin scope maxNesting type.asPart

/-- The type that a declared type comes to when it is read on its own, and
    references inside of it are left as they are.  A text is read at most twice,
    since an annotation that is quoted is a text of a text; what cannot be read
    for want of a name stays as it is. -/
def readDeclared (scope : Scope) (type : FieldType) : Except Fault FieldType := do
  match ← readOnce type with
  | (once, true) => return (← readOnce once).1
  | (once, false) => return once
where
  /-- Reads a text, and tells whether it could be read. -/
  readOnce (type : FieldType) : Except Fault (FieldType × Bool) :=
    match type with
    | .unresolved text =>
      match parse (text.toList.dropWhile fun c => c == ' ' || c == '\t') with
      | .error fault => .error fault.asFault
      | .ok expression =>
        match evaluate scope expression with
        | .ok meaning => .ok (asParameter meaning, true)
        | .error (.unknownName _) => .ok (type, false)
        | .error fault => .error fault
    | other => .ok (other, true)

end FieldRules.TypeText
