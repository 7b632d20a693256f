/-
  FieldRules/Record/FieldType.lean
  ================================
  **The declared type of a field.**

  A field may be declared with a class, a record class, a combination of types,
  or a text that names a type and is not resolved.  Rules ask three things of a
  declared type: whether it is a class of texts, which record class it is, and
  what it is called in a message.
-/
import FieldRules.Value.Basic

namespace FieldRules

open FieldRules.Text

inductive FieldType where
  /-- No type is declared. -/
  | absent
  /-- A class that is no record class; it may be a class of texts. -/
  | plain (name : String) (ofTexts : Bool)
  | record (cls : RecordClass)
  /-- A text that names a type. -/
  | unresolved (text : String)
  /-- A text that names a type, inside of another type. -/
  | forward (text : String)
  /-- One of several types, written with bars or by name. -/
  | union (withBars : Bool) (members : List FieldType)
  /-- A type with notes that carry no meaning for rules. -/
  | annotated (inner : FieldType) (notes : List String)
  /-- A container class with the types of what it contains. -/
  | container (name : String) (arguments : List FieldType)
  /-- A function of the language, which is no type. -/
  | function (name : String)
  /-- A value that is no type, by its printed form and the name of its class. -/
  | literal (shown className : String)
deriving Repr

namespace FieldType

/-! ### Equality -/

mutual

def isSame : FieldType → FieldType → Bool
  | absent, absent => true
  | plain name ofTexts, plain name' ofTexts' => name == name' && ofTexts == ofTexts'
  | record cls, record cls' => cls == cls'
  | unresolved text, unresolved text' => text == text'
  | forward text, forward text' => text == text'
  | union withBars members, union withBars' members' =>
    withBars == withBars' && areSame members members'
  | annotated inner notes, annotated inner' notes' => inner.isSame inner' && notes == notes'
  | container name arguments, container name' arguments' =>
    name == name' && areSame arguments arguments'
  | function name, function name' => name == name'
  | literal shown className, literal shown' className' => shown == shown' && className == className'
  | _, _ => false

def areSame : List FieldType → List FieldType → Bool
  | [], [] => true
  | first :: rest, first' :: rest' => first.isSame first' && areSame rest rest'
  | _, _ => false

end

mutual

theorem isSame_iff (type other : FieldType) : type.isSame other = true ↔ type = other := by
  cases type <;> cases other <;> simp [isSame, areSame_iff, isSame_iff]

theorem areSame_iff (types others : List FieldType) :
    areSame types others = true ↔ types = others := by
  cases types <;> cases others <;> simp [areSame, areSame_iff, isSame_iff]

end

instance : DecidableEq FieldType := fun type other =>
  decidable_of_iff (type.isSame other = true) (isSame_iff type other)

/-! ### Names and printed forms -/

def noneClass : FieldType := plain "NoneType" false

def isNoneClass : FieldType → Bool
  | plain "NoneType" false => true
  | _ => false

def isTextClass : FieldType → Bool
  | plain _ ofTexts => ofTexts
  | _ => false

/-- The name of a function with the place of its definition, if that is not the language. -/
def placedName (name : String) : String := if name == "open" then "io.open" else name

mutual

def shownWithin (withBars : Bool) : FieldType → String
  | absent => "None"
  | plain name _ =>
    if name == "NoneType" && withBars then "None"
    else if name == "Any" || name == "Annotated" then "typing." ++ name
    else name
  | record cls => cls.moduleName ++ "." ++ cls.qualifiedName
  | unresolved text => quoted text
  | forward text => "ForwardRef(" ++ quoted text ++ ")"
  | union true members => " | ".intercalate (shownMembers true members)
  | union false [first, second] =>
    if first.isNoneClass then "typing.Optional[" ++ second.shownWithin false ++ "]"
    else if second.isNoneClass then "typing.Optional[" ++ first.shownWithin false ++ "]"
    else "typing.Union[" ++ first.shownWithin false ++ ", " ++ second.shownWithin false ++ "]"
  | union false members =>
    "typing.Union[" ++ ", ".intercalate (shownMembers false members) ++ "]"
  | annotated inner notes =>
    "typing.Annotated[" ++ ", ".intercalate (inner.shownWithin false :: notes) ++ "]"
  | container name [] => name ++ "[()]"
  | container name arguments =>
    name ++ "[" ++ ", ".intercalate (shownParameters arguments) ++ "]"
  | function name => "<built-in function " ++ name ++ ">"
  | literal shown className => if className == "ellipsis" then "..." else shown

def shownMembers (withBars : Bool) : List FieldType → List String
  | [] => []
  | member :: rest => member.shownWithin withBars :: shownMembers withBars rest

def shownParameters : List FieldType → List String
  | [] => []
  | function name :: rest => placedName name :: shownParameters rest
  | parameter :: rest => parameter.shownWithin false :: shownParameters rest

end

def shown : FieldType → String
  | literal form _ => form
  | type => type.shownWithin true

/-- Whether a union has two members, one of which is the class of the absent value. -/
def isOptionalPair (members : List FieldType) : Bool :=
  members.length == 2 && members.any isNoneClass

def name : FieldType → String
  | plain name _ => name
  | record cls => cls.name
  | union false members => if isOptionalPair members then "Optional" else "Union"
  | annotated _ _ => "Annotated"
  | container name _ => name
  | function name => name
  | type => type.shown

/-- The name of a type in a message, with the place of its definition. -/
def qualifiedName : FieldType → String
  | record cls => cls.qualifiedName
  | type => type.name

/-- A type without the option of the absent value, and whether it had it.  One
    layer of notes is taken off first. -/
def unwrapOptional (type : FieldType) : FieldType × Bool :=
  let bare := match type with
    | annotated inner _ => inner
    | other => other
  match bare with
  | union _ members =>
    match members.filter (!·.isNoneClass) with
    | [member] => (member, true)
    | _ => (bare, false)
  | _ => (bare, false)

/-! ### Types made of types -/

/-- A type as a part of another one: a text becomes a reference to the type it
    names, and no type at all is the class of the absent value. -/
def asPart : FieldType → FieldType
  | absent => noneClass
  | unresolved text => forward text
  | type => type

def unionMembers : FieldType → List FieldType
  | union _ members => members
  | type => [type]

/-- The members of a union, each once and in order, of which single ones stand for themselves. -/
def unionWith (withBars : Bool) (types : List FieldType) : FieldType :=
  match (types.flatMap unionMembers).eraseDups with
  | [only] => only
  | members => union withBars members

def oneOf (types : List FieldType) : FieldType := unionWith false (types.map asPart)

def optional (type : FieldType) : FieldType := oneOf [type, absent]

def withNotes (type : FieldType) (notes : List String) : FieldType :=
  match type.asPart with
  | annotated inner earlier => annotated inner (earlier ++ notes)
  | part => annotated part notes

/-! ### Types in a union -/

def settledClasses : List String := ["ellipsis", "NotImplementedType", "_SpecialForm"]

mutual

/-- Whether the values inside of a type are of classes that may stand in a union. -/
def isSettled : FieldType → Bool
  | literal _ className => settledClasses.contains className
  | union _ members => areSettled members
  | annotated inner _ => inner.isSettled
  | container _ arguments => areSettled arguments
  | _ => true

def areSettled : List FieldType → Bool
  | [] => true
  | type :: rest => type.isSettled && areSettled rest

end

mutual

/-- Whether a type may be the same as one that is made otherwise: unions are the same in
    another order, and notes if they are the same number. -/
def hasOtherForms : FieldType → Bool
  | union _ _ => true
  | annotated _ _ => true
  | container _ arguments => anyHasOtherForms arguments
  | _ => false

def anyHasOtherForms : List FieldType → Bool
  | [] => false
  | type :: rest => type.hasOtherForms || anyHasOtherForms rest

end

/-- Whether the members of a union are the same only if they are made in the same way. -/
def canBeTold (members : List FieldType) : Bool :=
  areSettled members && decide (members.countP hasOtherForms ≤ 1)

def makesNamedUnion : FieldType → Bool
  | forward _ => true
  | annotated _ _ => true
  | union false _ => true
  | _ => false

/-- Whether the type may stand beside a bar on its own account. -/
def takesBars : FieldType → Bool
  | plain _ _ => true
  | record _ => true
  | union true _ => true
  | container _ _ => true
  | _ => false

def className : FieldType → String
  | absent => "NoneType"
  | plain "Any" _ => "_AnyMeta"
  | plain _ _ => "type"
  | record _ => "type"
  | unresolved _ => "str"
  | forward _ => "ForwardRef"
  | union true _ => "types.UnionType"
  | union false _ => "_UnionGenericAlias"
  | annotated _ _ => "_AnnotatedAlias"
  | container _ _ => "types.GenericAlias"
  | function _ => "builtin_function_or_method"
  | literal _ className => className

/-- Two types with a bar between them, if they can stand there. -/
def orElse? (first second : FieldType) : Option FieldType :=
  if first.makesNamedUnion || second.makesNamedUnion then some (oneOf [first, second])
  else if (first.takesBars && (second.takesBars || second == absent))
      || (first == absent && second.takesBars) then
    let part (type : FieldType) := if type == absent then noneClass else type
    some (unionWith true [part first, part second])
  else none

end FieldType

end FieldRules
