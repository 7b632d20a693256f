/-
  FieldRules/Regex/Reader.lean
  ============================
  **Reading the notation of patterns.**

  A choice holds sequences, a sequence holds items, and an item may be a group,
  which holds a choice again.  Flags are settled while reading: each item is read
  under the flags that apply to it.  A quantifier repeats the item before it, which
  can be neither an anchor nor a repetition; a brace that begins no quantifier stands
  for itself.
-/
import FieldRules.Regex.Choice
import FieldRules.Regex.Group

namespace FieldRules.Regex

/-! ### Quantifiers -/

def repeatCount (digits : List Char) : Step Nat :=
  if Number.maxDigits < digits.length then throw (.repeatTooLong digits.length, none)
  else if repeatLimit ≤ valueOf 10 digits then throw (.repeatTooLarge, none)
  else return valueOf 10 digits

/-- The least and greatest number of a quantifier in braces, or nothing if the
    brace stands for itself. -/
def readBraces : Step (Option (Nat × Option Nat)) := do
  let here ← position
  let saved ← get
  if (← peek) == some (.plain '\x7d') then return none
  else
    let low ← takeAll Char.isDigit
    let high ← if ← accept ',' then takeAll Char.isDigit else pure low
    if ← accept '\x7d' then
      let least ← repeatCount low
      if high.isEmpty then return some (least, none)
      else
        let most ← repeatCount high
        if most < least then failAt .repeatBoundsReversed here
        else return some (least, some most)
    else
      set saved
      return none

/-- Puts a quantifier on the last item of a sequence (latest first). -/
def applyQuantifier (start least : Nat) (most : Option Nat) : List Item → Step (List Item)
  | [] => failAt .nothingToRepeat start
  | item :: rest =>
    match item.role with
    | .anchor => failAt .nothingToRepeat start
    | .repetition => failAt .multipleRepeat start
    | .repeatable => do
      let isLazy ← accept '?'
      let isPossessive ← if isLazy then pure false else accept '+'
      let eagerness : Eagerness :=
        if isLazy then .lazy else if isPossessive then .possessive else .greedy
      return { role := .repetition, pattern := repeated item.pattern least most eagerness } :: rest

/-! ### Sequences, choices and groups -/

/-- A blank that is skipped in patterns with room for comments. -/
def isSkipped (c : Char) : Bool :=
  c == ' ' || (decide (0x09 ≤ c.toNat) && decide (c.toNat ≤ 0x0d))

def skipLine : Nat → Step Unit
  | 0 => return ()
  | fuel + 1 => do
    match ← take with
    | none => return ()
    | some token => if token == .plain '\n' then return () else skipLine fuel

def closeParenthesis (opening : Nat) : Step Unit := do
  if ← accept ')' then return () else failAt .unterminatedGroup opening

/-- The flags in force: those of the group around, or of the whole pattern. -/
def flagsIn (scope : Option Flags) : Step Flags := do
  match scope with
  | some flags => return flags
  | none => return (← get).flags

mutual

def readChoice : Nat → Option Flags → Step Regex
  | 0, _ => failHere .unexpectedEnd
  | fuel + 1, scope => do
    let first ← readSequence fuel scope scope.isNone []
    let others ← readAlternatives fuel scope
    return choice first others

def readAlternatives : Nat → Option Flags → Step (List Regex)
  | 0, _ => return []
  | fuel + 1, scope => do
    if ← accept '|' then
      let item ← readSequence fuel scope false []
      return item :: (← readAlternatives fuel scope)
    else return []

/-- Reads the items of a sequence after those found (latest first).  Flags for
    the whole pattern are admitted at the start of the first sequence. -/
def readSequence : Nat → Option Flags → Bool → List Item → Step Regex
  | 0, _, _, _ => failHere .unexpectedEnd
  | fuel + 1, scope, first, found => do
    let start ← position
    let flags ← flagsIn scope
    let done : Step Regex := return sequence (found.reverse.map (·.pattern))
    let add (item : Item) : Step Regex := readSequence fuel scope first (item :: found)
    let literal (c : Char) : Step Regex := add { pattern := char (.single c.toNat flags.cases) }
    let quantify (least : Nat) (most : Option Nat) : Step Regex := do
      readSequence fuel scope first (← applyQuantifier start least most found)
    match ← peek with
    | none => done
    | some (.plain '|') => done
    | some (.plain ')') => done
    | some .dangling => failAt .danglingEscape start
    | some (.escape c) => do
      let _ ← take
      add (← readEscape flags start c)
    | some (.plain c) => do
      let _ ← take
      if flags.contains 'x' && isSkipped c then readSequence fuel scope first found
      else if flags.contains 'x' && c == '#' then
        skipLine ((← get).tokens.length + 1)
        readSequence fuel scope first found
      else
        match c with
        | '[' => add (← readSet flags start)
        | '.' =>
          let excluded : List SetItem := if flags.contains 's' then [] else [.character 0x0a]
          add { pattern := char { items := excluded, negated := true } }
        | '^' =>
          add { role := .anchor
                pattern := anchor (if flags.contains 'm' then .lineStart else .textStart) }
        | '$' =>
          add { role := .anchor
                pattern := anchor (if flags.contains 'm' then .lineEnd else .lastLineEnd) }
        | '?' => quantify 0 (some 1)
        | '*' => quantify 0 none
        | '+' => quantify 1 none
        | '\x7b' =>
          match ← readBraces with
          | some (least, most) => quantify least most
          | none => literal c
        | '(' =>
          match ← readGroup fuel flags start (first && found.isEmpty) with
          | some item => add item
          | none => readSequence fuel scope first found
        | _ => literal c

def readGroup : Nat → Flags → Nat → Bool → Step (Option Item)
  | 0, _, _, _ => failHere .unexpectedEnd
  | fuel + 1, flags, opening, atStart => do
    let head ← if ← accept '?' then readExtension flags opening atStart
      else pure (GroupHead.group (.capturing none) flags)
    match head with
    | .nothing => return none
    | .item item => return some item
    | .group kind inner =>
      let number? ←
        match kind with
        | .capturing name => some <$> openGroup name
        | _ => pure none
      let body ← inside 2 do
        let body ← readChoice fuel (some inner)
        closeParenthesis opening
        if number?.isSome then checkWidth body
        return body
      if let some number := number? then closeGroup number body
      let pattern :=
        match kind, number? with
        | _, some number => capture number body
        | .atomic, none => atomic body
        | .underFlags, none => enclosed body
        | _, none => body
      return some { pattern := pattern }
    | .look behind negated =>
      let outer := (← get).lookbehindGroups
      if behind && outer.isNone then
        modify fun reading => { reading with lookbehindGroups := some reading.groups }
      let body ← inside 2 (readChoice fuel (some flags))
      if behind then modify fun reading => { reading with lookbehindGroups := outer }
      closeParenthesis opening
      let width := bounds (← get).closed body
      let side := if behind then Side.behind width else Side.ahead
      return some { pattern := look side negated body }
    | .condition group =>
      let present ← inside 1 (readSequence fuel (some flags) false [])
      let absent ←
        if ← accept '|' then
          let pattern ← inside 1 (readSequence fuel (some flags) false [])
          if (← peek) == some (.plain '|') then failHere .tooManyBranches
          else pure pattern
        else pure empty
      closeParenthesis opening
      return some { pattern := conditional group present absent }

end

/-! ### Whole patterns -/

def readPattern (size : Nat) : Step Regex := do
  refuseDangling
  let pattern ← readChoice (4 * size + 8) none
  let reading ← get
  if reading.flags.contains 'a' && reading.flags.contains 'u' then throw (.incompatibleFlags, none)
  else if !reading.tokens.isEmpty then failHere .unbalancedParenthesis
  else
    match reading.references.find? fun reference => decide (reading.groups ≤ reference.1) with
    | some (group, place) => failAt (.invalidGroup group) place
    | none =>
      checkWidth pattern
      match shapeProblem? (reading.flags.contains 't') (frameLimit + 1) pattern with
      | some problem => throw (problem, none)
      | none => if looksTooFar pattern then throw (.farLookbehind, none) else return pattern

def parse (text : String) : Except Fault Regex :=
  let chars := text.toList
  match (readPattern chars.length).run { tokens := tokensFrom 0 chars, size := chars.length } with
  | .ok (pattern, _) => .ok pattern
  | .error (problem, place) => .error ⟨problem, text, place⟩

end FieldRules.Regex
