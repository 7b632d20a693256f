/-
  FieldRules/Regex/Escape.lean
  ============================
  **Escapes and character sets.**

  A backslash and a letter stand for a character, a category of characters or a
  place; a backslash and digits for a character or a group; and a backslash and
  any other character for that character.

  A set lists characters, ranges of characters and categories between brackets.
  A bracket that closes the set right after it was opened stands for itself.
-/
import FieldRules.Number.Numeral
import FieldRules.Regex.Reading
import FieldRules.Text.CharacterName

namespace FieldRules.Regex

open FieldRules.Text

/-! ### Items of a sequence -/

/-- The part that an item plays for a quantifier after it. -/
inductive Role where
  /-- An anchor, which cannot be repeated. -/
  | anchor
  /-- A repetition, which cannot be repeated again. -/
  | repetition
  /-- Anything else. -/
  | repeatable
deriving DecidableEq, Repr

structure Item where
  role : Role := .repeatable
  pattern : Regex

/-! ### Escapes of characters -/

def controlEscape? : Char → Option Nat
  | 'a' => some 0x07
  | 'b' => some 0x08
  | 'f' => some 0x0c
  | 'n' => some 0x0a
  | 'r' => some 0x0d
  | 't' => some 0x09
  | 'v' => some 0x0b
  | '\x5c' => some 0x5c
  | _ => none

/-- The categories that escapes with a letter stand for, and whether they are negated. -/
def categoryEscape? : Char → Option (Category × Bool)
  | 'd' => some (.digit, false)
  | 'D' => some (.digit, true)
  | 's' => some (.blank, false)
  | 'S' => some (.blank, true)
  | 'w' => some (.word, false)
  | 'W' => some (.word, true)
  | _ => none

def anchorEscape? (asciiOnly : Bool) : Char → Option Anchor
  | 'A' => some .textStart
  | 'Z' => some .textEnd
  | 'b' => some (.wordBoundary asciiOnly)
  | 'B' => some (.noWordBoundary asciiOnly)
  | _ => none

def valueOf (base : Nat) (digits : List Char) : Nat :=
  Number.ofDigits base (digits.map fun c => (hexValue? c).getD 0)

def readHexEscape (start : Nat) (letter : Char) (count : Nat) : Step Nat := do
  let digits ← takeSome isHexDigit count
  let escape := String.ofList ('\x5c' :: letter :: digits)
  if digits.length != count then failAt (.incompleteEscape escape) start
  else
    let point := valueOf 16 digits
    if 0x80000000 ≤ point then throw (.codePointTooLarge, none)
    else if 0x110000 ≤ point then failAt (.badEscape escape) start
    else return point

/-- The escapes of one character by code point or name, shared by sets and sequences. -/
def readPointEscape? (start : Nat) (letter : Char) : Step (Option Nat) := do
  match letter with
  | 'x' => return some (← readHexEscape start 'x' 2)
  | 'u' => return some (← readHexEscape start 'u' 4)
  | 'U' => return some (← readHexEscape start 'U' 8)
  | 'N' =>
    if ← accept '\x7b' then
      let name ← takeName '\x7d' "character name"
      match namedPoint? name with
      | some point => return some point
      | none => failAt (.unknownCharacterName (String.ofList name)) start
    else failHere .missingBrace
  | _ => return none

/-- The character that an escape with no meaning of its own stands for: itself,
    unless it is a letter or digit. -/
def readPlainEscape (start : Nat) (c : Char) : Step Nat :=
  if c.isAlphanum then failAt (.badEscape (String.ofList ['\x5c', c])) start
  else return c.toNat

def readSetEscape (flags : Flags) (start : Nat) (c : Char) : Step SetItem := do
  match controlEscape? c, categoryEscape? c with
  | some point, _ => return .character point
  | none, some (kind, negated) => return .category kind (flags.contains 'a') negated
  | none, none =>
    match ← readPointEscape? start c with
    | some point => return .character point
    | none =>
      if isOctalDigit c then
        let digits := c :: (← takeSome isOctalDigit 2)
        let point := valueOf 8 digits
        if 0xff < point then
          failAt (.octalTooLarge (String.ofList ('\x5c' :: digits))) start
        else return .character point
      else
        let point ← readPlainEscape start c
        return .character point

/-! ### Escapes in a sequence -/

def readGroupEscape (flags : Flags) (start : Nat) (first : Char) : Step Regex := do
  let more ← takeSome Char.isDigit 1
  let octal : Option (List Char) ←
    match more with
    | [second] =>
      if isOctalDigit first && isOctalDigit second then
        match ← takeSome isOctalDigit 1 with
        | [third] => pure (some [first, second, third])
        | _ => pure none
      else pure none
    | _ => pure none
  match octal with
  | some digits =>
    let point := valueOf 8 digits
    if 0xff < point then failAt (.octalTooLarge (String.ofList ('\x5c' :: digits))) start
    else return char (.single point flags.cases)
  | none =>
    let group := valueOf 10 (first :: more)
    if group < (← get).groups then
      if !(← isClosed group) then failAt .openGroup start
      else
        checkLookbehindGroup group
        return backref group flags.cases
    else failAt (.invalidGroup group) (start + 1)

def readEscape (flags : Flags) (start : Nat) (c : Char) : Step Item := do
  let asciiOnly := flags.contains 'a'
  match anchorEscape? asciiOnly c, categoryEscape? c, controlEscape? c with
  | some place, _, _ => return { role := .anchor, pattern := anchor place }
  | none, some (kind, negated), _ =>
    let items : List SetItem := [.category kind asciiOnly negated]
    return { pattern := char { items := items, cases := flags.cases } }
  | none, none, some point => return { pattern := char (.single point flags.cases) }
  | none, none, none =>
    match ← readPointEscape? start c with
    | some point => return { pattern := char (.single point flags.cases) }
    | none =>
      if c == '0' then
        let digits ← takeSome isOctalDigit 2
        return { pattern := char (.single (valueOf 8 digits) flags.cases) }
      else if c.isDigit then return { pattern := ← readGroupEscape flags start c }
      else return { pattern := char (.single (← readPlainEscape start c) flags.cases) }
/-! ### Character sets -/

def readSetEntry (flags : Flags) (start : Nat) : Token → Step SetItem
  | .plain c => return .character c.toNat
  | .escape c => readSetEscape flags start c
  | .dangling => failAt .danglingEscape start

/-- The code point of an entry that is a single character. -/
def SetItem.point? : SetItem → Option Nat
  | character point => some point
  | _ => none

/-- Reads the entries of a set that began at a place, up to the bracket that closes it. -/
def readSetItems (flags : Flags) (opening : Nat) : Nat → List SetItem → Step (List SetItem)
  | 0, _ => failAt .unterminatedSet opening
  | fuel + 1, found => do
    let start ← position
    match ← take with
    | none => failAt .unterminatedSet opening
    | some token =>
      if token == .plain ']' && !found.isEmpty then return found
      else
        let entry ← readSetEntry flags start token
        if ← accept '-' then
          let lastStart ← position
          match ← take with
          | none => failAt .unterminatedSet opening
          | some lastToken =>
            if lastToken == .plain ']' then return found ++ [entry, .character 0x2d]
            else
              let last ← readSetEntry flags lastStart lastToken
              let problem : Problem :=
                .badRange (String.ofList token.chars) (String.ofList lastToken.chars)
              let offset := token.chars.length + 1 + lastToken.chars.length
              match entry.point?, last.point? with
              | some low, some high =>
                if high < low then failBack problem offset
                else readSetItems flags opening fuel (found ++ [.range low high])
              | _, _ => failBack problem offset
        else readSetItems flags opening fuel (found ++ [entry])

def readSet (flags : Flags) (opening : Nat) : Step Item := do
  let negated ← accept '^'
  let items ← readSetItems flags opening ((← get).tokens.length + 1) []
  let test : CharTest :=
    { items := SetItem.listed items, negated := negated, cases := flags.cases }
  return { pattern := char test }

end FieldRules.Regex
