/-
  FieldRules/Json/Reader.lean
  ===========================
  **Reading JSON documents.**

  A document is one value with blanks around it.  Besides the values of the
  standard, the words for infinities and for the absence of a number are read.
  Of an object key that is given twice the last value holds.  Every fault
  carries the position of the first character that does not fit.
-/
import FieldRules.Number.Numeral
import FieldRules.Text.Message
import FieldRules.Value.Shown

namespace FieldRules.Json

open FieldRules.Text

inductive Problem where
  | expectedValue
  | expectedKey
  | expectedColon
  | expectedComma
  | extraData
  | unterminatedString
  | controlCharacter
  | invalidEscape
  | invalidCodePointEscape
  | byteOrderMark
deriving DecidableEq, Repr

def Problem.message : Problem → String
  | expectedValue => "Expecting value"
  | expectedKey => "Expecting property name enclosed in double quotes"
  | expectedColon => "Expecting ':' delimiter"
  | expectedComma => "Expecting ',' delimiter"
  | extraData => "Extra data"
  | unterminatedString => "Unterminated string starting at"
  | controlCharacter => "Invalid control character at"
  | invalidEscape => "Invalid \\escape"
  | invalidCodePointEscape => "Invalid \\uXXXX escape"
  | byteOrderMark => "Unexpected UTF-8 BOM (decode using utf-8-sig)"

/-- Why a document is not read. -/
inductive Fault where
  /-- It is malformed at a position, of which line and column are known. -/
  | malformed (problem : Problem) (position line column : Nat)
  /-- An integer in it has this many digits, which are too many to read. -/
  | integerTooLong (digits : Nat)
  /-- An object or array in it stands inside of too many others. -/
  | tooDeep (isObject : Bool)
deriving DecidableEq, Repr

/-- How many objects and arrays may stand inside of each other. -/
def maxDepth : Nat := 990

def Fault.message : Fault → String
  | malformed problem position line column =>
    problem.message ++ ": line " ++ toString line ++ " column " ++ toString column
      ++ " (char " ++ toString position ++ ")"
  | integerTooLong digits => Number.tooLongToRead digits
  | tooDeep isObject =>
    "maximum recursion depth exceeded while decoding a JSON "
      ++ (if isObject then "object" else "array") ++ " from a unicode string"

/-- Why a value is not read: a problem at a position, an integer that is too long, or
    an object or array that stands too deep. -/
inductive Stop where
  | problem (problem : Problem) (position : Nat)
  | integerTooLong (digits : Nat)
  | tooDeep (isObject : Bool)

/-- The rest of a document, and the position at which it begins. -/
structure Rest where
  position : Nat
  chars : List Char

def isJsonBlank (c : Char) : Bool := c == ' ' || c == '\t' || c == '\n' || c == '\r'

namespace Rest

def skip (rest : Rest) (kind : Char → Bool) : Rest :=
  let taken := rest.chars.takeWhile kind
  { position := rest.position + taken.length, chars := rest.chars.dropWhile kind }

def skipBlanks (rest : Rest) : Rest := rest.skip isJsonBlank

def drop (rest : Rest) (count : Nat) : Rest :=
  { position := rest.position + count, chars := rest.chars.drop count }

def fail {α : Type} (rest : Rest) (problem : Problem) : Except Stop α :=
  .error (.problem problem rest.position)

end Rest

/-! ### Strings -/

def simpleEscape? : Char → Option Char
  | '\x22' => some '\x22'
  | '\x5c' => some '\x5c'
  | '/' => some '/'
  | 'b' => some '\x08'
  | 'f' => some '\x0c'
  | 'n' => some '\n'
  | 'r' => some '\r'
  | 't' => some '\t'
  | _ => none

def fourDigits? (chars : List Char) : Option Nat :=
  let digits := (chars.take 4).filterMap hexValue?
  if digits.length == 4 then some (Number.ofDigits 16 digits) else none

/-- Whether a value is the first half of a character that is written as two. -/
def isHighHalf (value : Nat) : Bool := decide (0xd800 ≤ value) && decide (value < 0xdc00)

/-- Whether a value is the second half of a character that is written as two. -/
def isLowHalf (value : Nat) : Bool := decide (0xdc00 ≤ value) && decide (value < 0xe000)

/-- The character of an escape by code point, of which the rest begins after
    the letter, and how many characters of the rest it takes. -/
def codePointEscape (rest : Rest) : Except Stop (Char × Nat) :=
  let mistake (position : Nat) : Except Stop (Char × Nat) :=
    .error (.problem .invalidCodePointEscape position)
  if rest.chars.length ≤ 4 then mistake (rest.position - 1)
  else
    match fourDigits? rest.chars with
    | none => mistake (rest.position - 1)
    | some value =>
      if isHighHalf value && decide (10 < rest.chars.length) &&
          (rest.chars.drop 4).take 2 == ['\x5c', 'u'] then
        match fourDigits? (rest.chars.drop 6) with
        | none => mistake (rest.position + 5)
        | some second =>
          if isLowHalf second then
            .ok (Char.ofNat (0x10000 + (value - 0xd800) * 0x400 + (second - 0xdc00)), 10)
          else .ok ('\ufffd', 4)
      else if isHighHalf value || isLowHalf value then .ok ('\ufffd', 4)
      else .ok (Char.ofNat value, 4)

/-- The characters of a string up to its closing quote; the string began at a
    position, and the characters found are latest first. -/
def readChars (start : Nat) : Nat → List Char → Rest → Except Stop (String × Rest)
  | 0, _, _ => .error (.problem .unterminatedString start)
  | fuel + 1, found, rest =>
    match rest.chars with
    | [] => .error (.problem .unterminatedString start)
    | '\x22' :: _ => .ok (String.ofList found.reverse, rest.drop 1)
    | ['\x5c'] => .error (.problem .unterminatedString start)
    | '\x5c' :: 'u' :: _ => do
      let (c, count) ← codePointEscape (rest.drop 2)
      readChars start fuel (c :: found) (rest.drop (2 + count))
    | '\x5c' :: letter :: _ =>
      match simpleEscape? letter with
      | some c => readChars start fuel (c :: found) (rest.drop 2)
      | none => rest.fail .invalidEscape
    | c :: _ =>
      if c.toNat < 0x20 then rest.fail .controlCharacter
      else readChars start fuel (c :: found) (rest.drop 1)

def readString (rest : Rest) : Except Stop (String × Rest) :=
  readChars rest.position (rest.chars.length + 1) [] (rest.drop 1)

/-! ### Numbers -/

def takeExponent (chars : List Char) : Option (Int × Nat) :=
  match chars with
  | [] => none
  | e :: rest =>
    if e == 'e' || e == 'E' then
      let (negative, unsigned) := Number.takeSign rest
      let digits := unsigned.takeWhile Char.isDigit
      if digits.isEmpty then none
      else
        let power : Int := Number.ofDecimalChars digits
        some (if negative then -power else power,
          1 + (rest.length - unsigned.length) + digits.length)
    else none

def readNumber (rest : Rest) : Except Stop (Value × Rest) :=
  let negative := rest.chars.head? == some '-'
  let unsigned := if negative then rest.chars.drop 1 else rest.chars
  let whole :=
    match unsigned with
    | '0' :: _ => ['0']
    | chars => chars.takeWhile Char.isDigit
  if whole.isEmpty then rest.fail .expectedValue
  else
    let afterWhole := unsigned.drop whole.length
    let fraction :=
      match afterWhole with
      | '.' :: chars => chars.takeWhile Char.isDigit
      | _ => []
    let fractionLength := if fraction.isEmpty then 0 else fraction.length + 1
    let afterFraction := afterWhole.drop fractionLength
    let exponent := takeExponent afterFraction
    let length := (if negative then 1 else 0) + whole.length + fractionLength
      + (exponent.map (·.2)).getD 0
    if fraction.isEmpty && exponent.isNone then
      if Number.maxDigits < whole.length then .error (.integerTooLong whole.length)
      else
        let magnitude : Int := Number.ofDecimalChars whole
        .ok (.integer (if negative then -magnitude else magnitude), rest.drop length)
    else
      let power := (exponent.map (·.1)).getD 0
      let digits := Number.ofDecimalChars (whole ++ fraction)
      .ok (.float (.ofDecimal negative digits (power - fraction.length)), rest.drop length)

/-! ### Values -/

def words : List (String × Value) :=
  [("null", .none), ("true", .bool true), ("false", .bool false), ("NaN", .float .nan),
   ("Infinity", .float (.infinity false)), ("-Infinity", .float (.infinity true))]

def readWord? (rest : Rest) : Option (Value × Rest) :=
  (words.find? fun word => word.1.toList.isPrefixOf rest.chars).map fun word =>
    (word.2, rest.drop word.1.length)

mutual

def readValue : Nat → Nat → Rest → Except Stop (Value × Rest)
  | 0, _, rest => rest.fail .expectedValue
  | fuel + 1, depth, rest =>
    match rest.chars with
    | '\x22' :: _ => (readString rest).map fun (text, after) => (.text text, after)
    | '\x7b' :: _ =>
      let inner := (rest.drop 1).skipBlanks
      if maxDepth ≤ depth then .error (.tooDeep true)
      else if inner.chars.head? == some '\x7d' then .ok (.mapping [], inner.drop 1)
      else readEntries fuel (depth + 1) [] inner
    | '[' :: _ =>
      let inner := (rest.drop 1).skipBlanks
      if maxDepth ≤ depth then .error (.tooDeep false)
      else if inner.chars.head? == some ']' then .ok (.list [], inner.drop 1)
      else readItems fuel (depth + 1) [] inner
    | _ =>
      match readWord? rest with
      | some found => .ok found
      | none => readNumber rest

/-- The entries of an object after those found, at the next key. -/
def readEntries : Nat → Nat → List (Value × Value) → Rest → Except Stop (Value × Rest)
  | 0, _, _, rest => rest.fail .expectedKey
  | fuel + 1, depth, found, rest => do
    if rest.chars.head? != some '\x22' then rest.fail .expectedKey
    else
      let (key, afterKey) ← readString rest
      let colon := afterKey.skipBlanks
      if colon.chars.head? != some ':' then colon.fail .expectedColon
      else
        let (value, afterValue) ← readValue fuel depth (colon.drop 1).skipBlanks
        let entries := Value.insertEntry (.text key) value found
        let next := afterValue.skipBlanks
        match next.chars with
        | '\x7d' :: _ => .ok (.mapping entries, next.drop 1)
        | ',' :: _ => readEntries fuel depth entries (next.drop 1).skipBlanks
        | _ => next.fail .expectedComma

/-- The items of an array after those found (latest first), at the next value. -/
def readItems : Nat → Nat → List Value → Rest → Except Stop (Value × Rest)
  | 0, _, _, rest => rest.fail .expectedValue
  | fuel + 1, depth, found, rest => do
    let (value, afterValue) ← readValue fuel depth rest
    let next := afterValue.skipBlanks
    match next.chars with
    | ']' :: _ => .ok (.list (value :: found).reverse, next.drop 1)
    | ',' :: _ => readItems fuel depth (value :: found) (next.drop 1).skipBlanks
    | _ => next.fail .expectedComma

end

def readDocument (chars : List Char) : Except Stop Value := do
  if chars.head? == some '\ufeff' then throw (.problem .byteOrderMark 0)
  else
    let start : Rest := { position := 0, chars := chars }
    let (value, rest) ← readValue (2 * chars.length + 2) 0 start.skipBlanks
    let ending := rest.skipBlanks
    if ending.chars.isEmpty then return value else ending.fail .extraData

def parse (chars : List Char) : Except Fault Value :=
  match readDocument chars with
  | .ok value => .ok value
  | .error (.integerTooLong digits) => .error (.integerTooLong digits)
  | .error (.tooDeep isObject) => .error (.tooDeep isObject)
  | .error (.problem problem position) =>
    let (line, column) := lineAndColumn chars position
    .error (.malformed problem position line column)

end FieldRules.Json
