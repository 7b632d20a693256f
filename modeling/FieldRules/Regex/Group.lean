/-
  FieldRules/Regex/Group.lean
  ===========================
  **What a group begins with.**

  After its parenthesis and a question mark, a group says what it is for: a name,
  flags, a look-around, a condition, a reference or a comment.
-/
import FieldRules.Regex.Escape

namespace FieldRules.Regex

open FieldRules.Text

/-! ### Flags of a group -/

/-- Reads the letters of flags that are turned on, the first one given, up to
    the character that ends them. -/
def readFlagsOn : Nat → Char → Flags → Step (Flags × Char)
  | 0, _, _ => failHere .missingFlagEnd
  | fuel + 1, letter, flags => do
    if letter == 'L' then failHere .bytesFlag
    else
      let flags := if flags.contains letter then flags else letter :: flags
      if scriptFlags.contains letter && flags.any fun f => scriptFlags.contains f && f != letter then
        failHere .exclusiveFlags
      else
        match ← take with
        | none => failHere .missingFlagEnd
        | some token =>
          match token with
          | .plain c =>
            if c == ')' || c == '-' || c == ':' then return (flags, c)
            else if flagLetters.contains c then readFlagsOn fuel c flags
            else failBack (if token.isLetter then .unknownFlag else .missingFlagEnd) 1
          | _ => failBack .missingFlagEnd token.chars.length

/-- Reads the letters of flags that are turned off, the first one given, up to the colon. -/
def readFlagsOff : Nat → Char → Flags → Step Flags
  | 0, _, _ => failHere .missingColon
  | fuel + 1, letter, flags => do
    if scriptFlags.contains letter then failHere .lockedFlags
    else
      let flags := letter :: flags
      match ← take with
      | none => failHere .missingColon
      | some token =>
        match token with
        | .plain c =>
          if c == ':' then return flags
          else if flagLetters.contains c then readFlagsOff fuel c flags
          else failBack (if token.isLetter then .unknownFlag else .missingColon) 1
        | _ => failBack .missingColon token.chars.length

/-- Reads the flags of a group from their first character on: nothing if they
    are flags of the whole pattern, which are put in force, and otherwise those
    turned on and off for the group. -/
def readFlags (first : Char) : Step (Option (Flags × Flags)) := do
  let fuel := (← get).tokens.length + 2
  let (added, stop) ←
    if first == '-' then pure (([], '-') : Flags × Char) else readFlagsOn fuel first []
  if stop == ')' then
    modify fun reading =>
      { reading with flags := reading.flags ++ added.filter (!reading.flags.contains ·) }
    return none
  else if added.contains 't' then failBack .globalFlagOn 1
  else
    let removed ←
      if stop == '-' then
        match ← take with
        | none => failHere .missingFlag
        | some token =>
          match token with
          | .plain c =>
            if flagLetters.contains c then readFlagsOff fuel c []
            else failBack (if token.isLetter then .unknownFlag else .missingFlag) 1
          | _ => failBack .missingFlag token.chars.length
      else pure []
    if removed.contains 't' then failBack .globalFlagOff 1
    else if added.any removed.contains then failBack .contradictoryFlags 1
    else return some (added, removed)

/-! ### Heads of groups -/

def skipComment (opening : Nat) : Nat → Step Unit
  | 0 => failAt .unterminatedComment opening
  | fuel + 1 => do
    match ← peek with
    | none => failAt .unterminatedComment opening
    | some _ => if (← take) == some (.plain ')') then return () else skipComment opening fuel

def readCondition : Step Nat := do
  let name ← takeName ')' "group name"
  let text := String.ofList name
  let group ←
    if isIdentifier name then
      match (← get).names.lookup text with
      | some group => pure group
      | none => failBack (.unknownGroupName text) (name.length + 1)
    else
      match Number.readInteger text with
      | .ok (.ofNat 0) => failBack .badGroupNumber (name.length + 1)
      | .ok (.ofNat number) =>
        if 1073741823 ≤ number then failBack (.invalidGroup number) (name.length + 1)
        else
          let place := (← position) - (name.length + 1)
          modify fun reading =>
            if reading.references.any (·.1 == number) then reading
            else { reading with references := reading.references ++ [(number, place)] }
          pure number
      | _ => failBack (.badGroupName text) (name.length + 1)
  checkLookbehindGroup group
  return group

/-- The kinds of groups that hold patterns for themselves. -/
inductive GroupKind where
  /-- What the group matches is recorded, under its number and a name if it has one. -/
  | capturing (name : Option (List Char))
  /-- The group does nothing but hold its pattern together. -/
  | plain
  /-- The group has flags of its own. -/
  | underFlags
  /-- The group matches in its first way only. -/
  | atomic

/-- What an opening parenthesis and the characters after it begin. -/
inductive GroupHead where
  /-- A group, and the flags in it. -/
  | group (kind : GroupKind) (flags : Flags)
  /-- A look-around. -/
  | look (behind negated : Bool)
  /-- A condition on a group. -/
  | condition (group : Nat)
  /-- A complete item. -/
  | item (item : Item)
  /-- A comment or flags of the whole pattern, which leave no item. -/
  | nothing

/-- Reads what follows `(?P`. -/
def readNamed (flags : Flags) : Step GroupHead := do
  let isDefinition ← accept '<'
  let isReference ← if isDefinition then pure false else accept '='
  if isDefinition then
    let name ← takeName '>' "group name"
    checkGroupName name
    return .group (.capturing (some name)) flags
  else if isReference then
    let name ← takeName ')' "group name"
    checkGroupName name
    let text := String.ofList name
    match (← get).names.lookup text with
    | none => failBack (.unknownGroupName text) (name.length + 1)
    | some group =>
      if !(← isClosed group) then failBack .openGroup (name.length + 1)
      else
        checkLookbehindGroup group
        return .item { pattern := backref group flags.cases }
  else
    match ← take with
    | none => failHere .unexpectedEnd
    | some token =>
      failBack (.unknownExtension (String.ofList ('P' :: token.chars))) (token.chars.length + 2)

/-- Reads what follows `(?`. -/
def readExtension (flags : Flags) (opening : Nat) (atStart : Bool) : Step GroupHead := do
  match ← take with
  | none => failHere .unexpectedEnd
  | some token =>
    match token with
    | .plain 'P' => readNamed flags
    | .plain ':' => return .group .plain flags
    | .plain '>' => return .group .atomic flags
    | .plain '#' =>
      skipComment opening ((← get).tokens.length + 1)
      return .nothing
    | .plain '=' => return .look false false
    | .plain '!' => return .look false true
    | .plain '<' =>
      match ← take with
      | none => failHere .unexpectedEnd
      | some (.plain '=') => return .look true false
      | some (.plain '!') => return .look true true
      | some other =>
        failBack (.unknownExtension (String.ofList ('<' :: other.chars))) (other.chars.length + 2)
    | .plain '(' => return .condition (← readCondition)
    | .plain c =>
      if flagLetters.contains c || c == '-' then
        match ← readFlags c with
        | none => if atStart then return .nothing else failAt .misplacedFlags opening
        | some (added, removed) => return .group .underFlags (flags.change added removed)
      else failBack (.unknownExtension c.toString) 2
    | other =>
      failBack (.unknownExtension (String.ofList other.chars)) (other.chars.length + 1)

end FieldRules.Regex
