/-
  FieldRules/Number/Numeral.lean
  ==============================
  **Reading numbers from text.**

  An integer is read with blanks around it, one sign, decimal digits of any
  script and single underscores between digits.  A decimal fraction may have a
  point and an exponent as well, or be one of the words for infinity and for
  the absence of a number.  Integers of more than 4300 digits are refused: the
  time to read them grows with the square of their length.
-/
import FieldRules.Number.Binary64
import FieldRules.Text.Character

namespace FieldRules.Number

open FieldRules.Text

def maxDigits : Nat := 4300

def tooLongToRead (digits : Nat) : String :=
  "Exceeds the limit (" ++ toString maxDigits
    ++ " digits) for integer string conversion: value has " ++ toString digits
    ++ " digits; use sys.set_int_max_str_digits() to increase the limit"

def tooLongToWrite : String :=
  "Exceeds the limit (" ++ toString maxDigits
    ++ " digits) for integer string conversion; use sys.set_int_max_str_digits()"
    ++ " to increase the limit"

def ofDigits (base : Nat) (digits : List Nat) : Nat :=
  digits.foldl (fun value digit => value * base + digit) 0

def ofDecimalChars (digits : List Char) : Nat :=
  ofDigits 10 (digits.map fun c => c.toNat - '0'.toNat)

/-- A blank that numbers may stand between: the four separator controls are
    blank in text, but not here. -/
def isNumberBlank (c : Char) : Bool :=
  isBlank c && !(decide (0x1c ≤ c.toNat) && decide (c.toNat ≤ 0x1f))

def trimBlanks (text : List Char) : List Char :=
  ((text.dropWhile isNumberBlank).reverse.dropWhile isNumberBlank).reverse

/-- A sign in front of a number: whether it is a minus, and what follows. -/
def takeSign : List Char → Bool × List Char
  | '-' :: rest => (true, rest)
  | '+' :: rest => (false, rest)
  | rest => (false, rest)

/-- The values of digits in a base with single underscores between them, or
    nothing if anything else is there. -/
def digitsOf? (value? : Char → Option Nat) (base : Nat) : List Char → Option (List Nat)
  | [] => none
  | c :: rest =>
    match value? c with
    | none => none
    | some value =>
      if base ≤ value then none
      else match rest with
        | [] => some [value]
        | '_' :: more => (digitsOf? value? base more).map (value :: ·)
        | more => (digitsOf? value? base more).map (value :: ·)

/-- Why a text is not read as an integer. -/
inductive IntegerFault where
  /-- It is not the written form of an integer. -/
  | malformed
  /-- It has this many digits, which is more than `maxDigits`. -/
  | tooLong (digits : Nat)
deriving DecidableEq, Repr

def readInteger (text : String) : Except IntegerFault Int :=
  let (negative, unsigned) := takeSign (trimBlanks text.toList)
  match digitsOf? digitValue? 10 unsigned with
  | none => .error .malformed
  | some digits =>
    if maxDigits < digits.length then .error (.tooLong digits.length)
    else
      let magnitude : Int := ofDigits 10 digits
      .ok (if negative then -magnitude else magnitude)

/-- The longest run of digits, with single underscores between them, at the
    head of a text. -/
def takeDigits : List Char → List Nat × List Char
  | [] => ([], [])
  | c :: rest =>
    match digitValue? c with
    | none => ([], c :: rest)
    | some value =>
      match rest with
      | '_' :: d :: more =>
        match digitValue? d with
        | none => ([value], '_' :: d :: more)
        | some _ => let (digits, after) := takeDigits (d :: more); (value :: digits, after)
      | more => let (digits, after) := takeDigits more; (value :: digits, after)

/-- The exponent at the end of a decimal fraction; no exponent is zero. -/
def exponentOf? : List Char → Option Int
  | [] => some 0
  | c :: rest =>
    if c == 'e' || c == 'E' then
      let (negative, unsigned) := takeSign rest
      match takeDigits unsigned with
      | ([], _) => none
      | (digits, []) =>
        let power : Int := ofDigits 10 digits
        some (if negative then -power else power)
      | _ => none
    else none

def fractionOf? (negative : Bool) (text : List Char) : Option Binary64 :=
  let (whole, afterWhole) := takeDigits text
  let (part, afterPart) :=
    match afterWhole with
    | '.' :: rest => takeDigits rest
    | rest => ([], rest)
  if whole.isEmpty && part.isEmpty then none
  else (exponentOf? afterPart).map fun exponent =>
    .ofDecimal negative (ofDigits 10 (whole ++ part)) (exponent - part.length)

def readFloat? (text : String) : Option Binary64 :=
  let (negative, unsigned) := takeSign (trimBlanks text.toList)
  match String.ofList (unsigned.map Char.toLower) with
  | "nan" => some .nan
  | "inf" | "infinity" => some (.infinity negative)
  | _ => fractionOf? negative unsigned

end FieldRules.Number
