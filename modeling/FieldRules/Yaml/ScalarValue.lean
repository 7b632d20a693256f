/-
  FieldRules/Yaml/ScalarValue.lean
  ================================
  **The values that scalars of YAML documents stand for.**

  A scalar stands for a truth value, an integer in one of four bases or in
  sixtieths, a floating-point number or bytes, as its tag asks for.  Underscores
  in numbers do not count.
-/
import FieldRules.Number.Numeral
import FieldRules.Text.Lower
import FieldRules.Value.Basic
import FieldRules.Yaml.Token

namespace FieldRules.Yaml

open FieldRules.Text

/-! ### Truth values -/

def readTruth (content : String) : Except Fault Bool :=
  let lower := Text.lower content
  if ["yes", "true", "on"].contains lower then .ok true
  else if ["no", "false", "off"].contains lower then .ok false
  else .error (.notTruthValue lower)

/-! ### Numbers -/

/-- The value of a digit, in letters from ten on. -/
def digitOrLetter? (c : Char) : Option Nat := (digitValue? c).or (hexValue? c)

def dropBaseMark (base : Nat) (text : List Char) : List Char :=
  match text with
  | '0' :: letter :: rest =>
    let marks := (base == 2 && letter.toLower == 'b') || (base == 8 && letter.toLower == 'o')
      || (base == 16 && letter.toLower == 'x')
    if marks then (match rest with | '_' :: more => more | more => more) else text
  | _ => text

def readInBase (base : Nat) (text : List Char) : Except Fault Int :=
  let (negative, unsigned) := Number.takeSign (Number.trimBlanks text)
  match Number.digitsOf? digitOrLetter? base (dropBaseMark base unsigned) with
  | none => .error (.notInteger base (String.ofList text))
  | some digits =>
    let magnitude : Int := Number.ofDigits base digits
    .ok (if negative then -magnitude else magnitude)

def readDecimal (text : List Char) : Except Fault Int :=
  match Number.readInteger (String.ofList text) with
  | .ok value => .ok value
  | .error .malformed => .error (.notInteger 10 (String.ofList text))
  | .error (.tooLong digits) => .error (.integerTooLong digits)

def splitColons (text : List Char) : List (List Char) := text.splitOn ':'

def readInteger (content : String) : Except Fault Int :=
  let text := content.toList.filter (· != '_')
  match text with
  | [] => .error .emptyNumber
  | first :: rest => do
    let unsigned := if first == '-' || first == '+' then rest else text
    let sign : Int := if first == '-' then -1 else 1
    let magnitude : Int ←
      match unsigned with
      | ['0'] => pure 0
      | '0' :: 'b' :: digits => readInBase 2 digits
      | '0' :: 'x' :: digits => readInBase 16 digits
      | '0' :: _ => readInBase 8 unsigned
      | [] => throw .emptyNumber
      | _ =>
        if unsigned.contains ':' then
          let parts ← (splitColons unsigned).mapM readDecimal
          pure (parts.foldl (fun value part => value * 60 + part) 0)
        else readDecimal unsigned
    return sign * magnitude

def readDecimalFloat (text : List Char) : Except Fault Binary64 :=
  match Number.readFloat? (String.ofList text) with
  | some value => .ok value
  | none => .error (.notFloat (String.ofList text))

/-- A sum with numbers added to it, of which each next one counts sixty times more;
    what they count has to be a floating-point number itself. -/
def sumOfSixtieths (weight : Nat) (sum : Binary64) : List Binary64 → Except Fault Binary64
  | [] => .ok sum
  | part :: rest =>
    match Binary64.ofInt (Int.ofNat weight) with
    | .infinity _ => .error .weightTooLarge
    | factor => sumOfSixtieths (weight * 60) (Binary64.add sum (Binary64.mul part factor)) rest

/-- The unsigned text of a floating-point number in lower case, without underscores,
    and whether a minus sign stands before it. -/
def floatText (content : String) : Except Fault (Bool × List Char) :=
  match (Text.lower (String.ofList (content.toList.filter (· != '_')))).toList with
  | [] => .error .emptyNumber
  | first :: rest =>
    .ok (first == '-', if first == '-' || first == '+' then rest else first :: rest)

def missingNumber : List Char := ".nan".toList

def isMissingNumber (content : String) : Bool :=
  match floatText content with
  | .ok (_, unsigned) => unsigned == missingNumber
  | .error _ => false

def readFloat (content : String) : Except Fault Binary64 := do
  let (negative, unsigned) ← floatText content
  let signed (value : Binary64) : Binary64 := if negative then value.negate else value
  if unsigned == ".inf".toList then return signed (.infinity false)
  else if unsigned == missingNumber then return .nan
  else if unsigned.contains ':' then
    let parts ← (splitColons unsigned).mapM readDecimalFloat
    return signed (← sumOfSixtieths 1 (Binary64.signedZero false) parts.reverse)
  else return signed (← readDecimalFloat unsigned)

/-! ### Bytes -/

/-- The value of a character of the alphabet of 64. -/
def sextet? (c : Char) : Option Nat :=
  if c.isUpper then some (c.toNat - 'A'.toNat)
  else if c.isLower then some (c.toNat - 'a'.toNat + 26)
  else if c.isDigit then some (c.toNat - '0'.toNat + 52)
  else if c == '+' then some 62
  else if c == '/' then some 63
  else none

/-- The sextets of a text up to its padding, and how much padding was met. -/
def sextets : List Char → Nat → Nat → List Nat × Nat
  | [], _, padding => ([], padding)
  | c :: rest, count, padding =>
    if c == '=' then
      if 2 ≤ count % 4 && 4 ≤ count % 4 + padding + 1 then ([], padding + 1)
      else sextets rest count (padding + 1)
    else
      match sextet? c with
      | some value =>
        let (more, left) := sextets rest (count + 1) 0
        (value :: more, left)
      | none => sextets rest count padding

def bytesOf : List Nat → List Nat
  | a :: b :: c :: d :: rest =>
    (a * 4 + b / 16) :: (b % 16 * 16 + c / 4) :: (c % 4 * 64 + d) :: bytesOf rest
  | [a, b, c] => [a * 4 + b / 16, b % 16 * 16 + c / 4]
  | [a, b] => [a * 4 + b / 16]
  | _ => []

def shownBytes (bytes : List Nat) : String :=
  let chars := bytes.map Char.ofNat
  let quote := quoteFor chars
  let shownByte (c : Char) : List Char :=
    if c.toNat < 0x7f then escapeChar quote c else '\x5c' :: 'x' :: hexDigits 2 c.toNat
  String.ofList ('b' :: quote :: chars.flatMap shownByte ++ [quote])

def readBytes (content : String) : Except Fault Value :=
  let chars := content.toList
  let (values, padding) := sextets chars 0 0
  let extra := values.length % 4
  if chars.any (fun c => decide (0x80 ≤ c.toNat)) then .error .malformed
  else if extra == 1 || (extra != 0 && extra + padding < 4) then .error .malformed
  else
    let bytes := bytesOf values
    let shown := shownBytes bytes
    .ok (.object "bytes" shown shown bytes.isEmpty)

end FieldRules.Yaml
