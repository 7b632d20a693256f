/-
  FieldRules/Regex/Reading.lean
  =============================
  **What a reader knows, and the steps it takes.**

  A pattern is read in tokens: single characters, and pairs of a backslash and
  the character after it.  The reader looks one token ahead, so a backslash at the
  end of the pattern is reported as soon as the token before it is taken.  The
  flags that a pattern is read under are letters: those for the whole pattern stand
  at its start, and flags of a group hold for the group.

  A group is open from its parenthesis to the one that closes it; its number and
  name are known from the start, and its width from the end.  What stands inside of
  a group is read in calls inside of those for the group, of which there is a limit.
-/
import FieldRules.Regex.CharTest
import FieldRules.Regex.Width
import FieldRules.Text.Identifier

namespace FieldRules.Regex

open FieldRules.Text

/-! ### Flags -/

abbrev Flags := List Char

def flagLetters : List Char := ['i', 'L', 'm', 's', 'x', 'a', 't', 'u']

def scriptFlags : List Char := ['a', 'L', 'u']

/-- Flags of a group: those around it, with some turned on and others off. -/
def Flags.change (flags added removed : Flags) : Flags :=
  let kept := if added.any scriptFlags.contains then
    flags.filter (!scriptFlags.contains ·) else flags
  (kept ++ added.filter (!kept.contains ·)).filter (!removed.contains ·)

def Flags.cases (flags : Flags) : CaseRule :=
  if flags.contains 'i' then if flags.contains 'a' then .ignoreAscii else .ignore else .exact

/-! ### Tokens -/

inductive Token where
  | plain (c : Char)
  /-- A backslash and the character after it. -/
  | escape (c : Char)
  /-- A backslash at the end of the pattern. -/
  | dangling
deriving DecidableEq, Repr

def Token.chars : Token → List Char
  | plain c => [c]
  | escape c => ['\x5c', c]
  | dangling => ['\x5c']

def tokensFrom : Nat → List Char → List (Nat × Token)
  | _, [] => []
  | position, [c] => [(position, if c == '\x5c' then .dangling else .plain c)]
  | position, c :: d :: rest =>
    if c == '\x5c' then (position, .escape d) :: tokensFrom (position + 2) rest
    else (position, .plain c) :: tokensFrom (position + 1) (d :: rest)

def Token.isLetter : Token → Bool
  | plain c => isIdentifierStart c && c != '_'
  | _ => false

/-! ### The state of a reader -/

/-- What a reader knows: the tokens ahead, the length of the pattern, the flags
    of the whole pattern, the names and number of groups, the bounds of the
    groups that are closed, the number of groups at the start of the outermost
    look-behind around, the first places of references by number that are checked
    in the end, and how many calls the groups around take. -/
structure Reading where
  tokens : List (Nat × Token)
  size : Nat
  flags : Flags := []
  names : List (String × Nat) := []
  groups : Nat := 1
  closed : List (Nat × Bounds) := []
  lookbehindGroups : Option Nat := none
  references : List (Nat × Nat) := []
  frames : Nat := 0

/-- A step of reading, which may find a problem at a place. -/
abbrev Step := StateT Reading (Except (Problem × Option Nat))

def position : Step Nat := do
  let reading ← get
  return match reading.tokens with
    | [] => reading.size
    | (place, _) :: _ => place

def failAt {α : Type} (problem : Problem) (place : Nat) : Step α :=
  throw (problem, some place)

def failHere {α : Type} (problem : Problem) : Step α := do
  failAt problem (← position)

/-- Reports a problem some characters before the next token. -/
def failBack {α : Type} (problem : Problem) (offset : Nat) : Step α := do
  failAt problem ((← position) - offset)

def peek : Step (Option Token) := do
  return (← get).tokens.head?.map (·.2)

/-- Refuses a pattern of which the next token is a backslash at its end. -/
def refuseDangling : Step Unit := do
  match (← get).tokens with
  | (place, .dangling) :: _ => failAt .danglingEscape place
  | _ => return ()

def take : Step (Option Token) := do
  let reading ← get
  match reading.tokens with
  | [] => return none
  | (_, token) :: rest =>
    set { reading with tokens := rest }
    refuseDangling
    return some token

def accept (c : Char) : Step Bool := do
  if (← peek) == some (.plain c) then
    let _ ← take
    return true
  else return false

def takeSome (kind : Char → Bool) : Nat → Step (List Char)
  | 0 => return []
  | count + 1 => do
    match ← peek with
    | some (.plain c) =>
      if kind c then
        let _ ← take
        return c :: (← takeSome kind count)
      else return []
    | _ => return []

def takeAll (kind : Char → Bool) : Step (List Char) := do
  takeSome kind (← get).tokens.length

def takeUntil (terminator : Char) (what : String) : Nat → List Char → Step (List Char)
  | 0, taken => failBack (.unterminatedName terminator) taken.length
  | fuel + 1, taken => do
    match ← take with
    | none =>
      if taken.isEmpty then failHere (.missingName what)
      else failBack (.unterminatedName terminator) taken.length
    | some token =>
      if token == .plain terminator then
        if taken.isEmpty then failBack (.missingName what) 1 else return taken
      else takeUntil terminator what fuel (taken ++ token.chars)

def takeName (terminator : Char) (what : String) : Step (List Char) := do
  takeUntil terminator what ((← get).tokens.length + 1) []

/-! ### Groups -/

def isClosed (group : Nat) : Step Bool := do
  return (← get).closed.any (·.1 == group)

/-- Refuses a reference, inside a look-behind, to a group that is open or
    begins in the same look-behind. -/
def checkLookbehindGroup (group : Nat) : Step Unit := do
  match (← get).lookbehindGroups with
  | none => return ()
  | some outside =>
    if !(← isClosed group) then failHere .openGroup
    else if outside ≤ group then failHere .groupInSameLookbehind
    else return ()

def openGroup (name : Option (List Char)) : Step Nat := do
  let reading ← get
  let group := reading.groups
  match name with
  | none => set { reading with groups := group + 1 }
  | some chars =>
    let name := String.ofList chars
    match reading.names.lookup name with
    | some earlier => failBack (.redefinedGroupName name group earlier) (chars.length + 1)
    | none =>
      set { reading with groups := group + 1, names := (name, group) :: reading.names }
  return group

/-- Reads what stands inside of a group, in so many calls more. -/
def inside {α : Type} (calls : Nat) (inner : Step α) : Step α := do
  let around := (← get).frames
  if frameLimit < around + calls then throw (.tooDeep, none)
  else
    modify fun reading => { reading with frames := around + calls }
    let result ← inner
    modify fun reading => { reading with frames := around }
    return result

/-- Refuses a pattern whose width takes too many calls to tell, with those for the groups around. -/
def checkWidth (body : Regex) : Step Unit := do
  if frameLimit < (← get).frames + widthFrames body then throw (.tooDeep, none)
  else return ()

def closeGroup (group : Nat) (body : Regex) : Step Unit :=
  modify fun reading =>
    { reading with closed := (group, bounds reading.closed body) :: reading.closed }

def checkGroupName (name : List Char) : Step Unit := do
  if isIdentifier name then return ()
  else failBack (.badGroupName (String.ofList name)) (name.length + 1)

end FieldRules.Regex
