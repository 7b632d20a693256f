/-
  FieldRules/Number/Binary64.lean
  ===============================
  **Binary floating-point numbers of 64 bits, exactly.**

  A finite number is a sign and `mantissa · 2^exponent` with a mantissa of at
  most 53 bits and an exponent from -1074 to 971, so all arithmetic is done on
  exact fractions and rounded once, to the nearest number, ties to the even
  mantissa.  A number is written with the fewest decimal digits that read back
  as the same number, and of those with the nearest ones; positional notation
  is used from 10^-4 up to, but not including, 10^16.
-/
namespace FieldRules

/-- The power of a natural number, as the core library computes it. -/
def Number.power (base exponent : Nat) : Nat := (@instHPow Nat Nat instPowNat).hPow base exponent

/-- A floating-point number of 64 bits. -/
inductive Binary64 where
  | nan
  | infinity (negative : Bool)
  | finite (negative : Bool) (mantissa : Nat) (exponent : Int)
deriving DecidableEq, Repr

namespace Binary64

/-! ### Rounding a fraction -/

/-- The quotient rounded to the nearest integer, a half to the even one. -/
def roundQuotient (numerator denominator : Nat) : Nat :=
  let quotient := numerator / denominator
  let twice := 2 * (numerator % denominator)
  if twice < denominator then quotient
  else if denominator < twice then quotient + 1
  else if quotient % 2 == 0 then quotient else quotient + 1

def dividePower (numerator denominator : Nat) (exponent : Int) : Nat × Nat :=
  if 0 ≤ exponent then (numerator, denominator * Number.power 2 exponent.toNat)
  else (numerator * Number.power 2 (-exponent).toNat, denominator)

def signedZero (negative : Bool) : Binary64 := finite negative 0 (-1074)

def ofRatio (negative : Bool) (numerator denominator : Nat) : Binary64 :=
  if numerator == 0 then signedZero negative
  else
    let guess : Int := (numerator.log2 : Int) - (denominator.log2 : Int) - 52
    let scaled := dividePower numerator denominator guess
    let exact := if scaled.1 < scaled.2 * Number.power 2 52 then guess - 1 else guess
    let exponent := max exact (-1074)
    let parts := dividePower numerator denominator exponent
    let mantissa := roundQuotient parts.1 parts.2
    let carried := if mantissa == Number.power 2 53 then (Number.power 2 52, exponent + 1)
      else (mantissa, exponent)
    if 971 < carried.2 then infinity negative else finite negative carried.1 carried.2

/-- The number nearest to `digits · 10^exponent` with a sign.  Exponents far
    beyond the range are decided by the size alone. -/
def ofDecimal (negative : Bool) (digits : Nat) (exponent : Int) : Binary64 :=
  if digits == 0 then signedZero negative
  else
    let magnitude : Int := (toString digits).length + exponent
    if 310 < magnitude then infinity negative
    else if magnitude < -330 then signedZero negative
    else if 0 ≤ exponent then ofRatio negative (digits * Number.power 10 exponent.toNat) 1
    else ofRatio negative digits (Number.power 10 (-exponent).toNat)

def ofInt (value : Int) : Binary64 := ofRatio (decide (value < 0)) value.natAbs 1

/-! ### Exact values and arithmetic -/

/-- The magnitude of `mantissa · 2^exponent` as a fraction. -/
def magnitude (mantissa : Nat) (exponent : Int) : Nat × Nat :=
  dividePower mantissa 1 (-exponent)

def isZero : Binary64 → Bool
  | finite _ mantissa _ => mantissa == 0
  | _ => false

def toInt? : Binary64 → Option Int
  | finite negative mantissa exponent =>
    let parts := magnitude mantissa exponent
    if parts.1 % parts.2 == 0 then
      let whole : Int := parts.1 / parts.2
      some (if negative then -whole else whole)
    else none
  | _ => none

/-- Whether two numbers are equal as numbers: zeros are equal whatever their
    signs, and no number is equal to `nan`. -/
def sameNumber : Binary64 → Binary64 → Bool
  | nan, _ => false
  | _, nan => false
  | first, second => (first.isZero && second.isZero) || first == second

def negate : Binary64 → Binary64
  | nan => nan
  | infinity negative => infinity (!negative)
  | finite negative mantissa exponent => finite (!negative) mantissa exponent

def add : Binary64 → Binary64 → Binary64
  | nan, _ => nan
  | _, nan => nan
  | infinity first, infinity second => if first == second then infinity first else nan
  | infinity negative, _ => infinity negative
  | _, infinity negative => infinity negative
  | finite negative₁ mantissa₁ exponent₁, finite negative₂ mantissa₂ exponent₂ =>
    let exponent := min exponent₁ exponent₂
    let term (negative : Bool) (mantissa : Nat) (own : Int) : Int :=
      let aligned : Int := mantissa * Number.power 2 (own - exponent).toNat
      if negative then -aligned else aligned
    let sum := term negative₁ mantissa₁ exponent₁ + term negative₂ mantissa₂ exponent₂
    let parts := dividePower sum.natAbs 1 (-exponent)
    if sum == 0 then signedZero (negative₁ && negative₂)
    else ofRatio (decide (sum < 0)) parts.1 parts.2

def mul : Binary64 → Binary64 → Binary64
  | nan, _ => nan
  | _, nan => nan
  | infinity first, infinity second => infinity (first != second)
  | infinity first, finite second mantissa _ =>
    if mantissa == 0 then nan else infinity (first != second)
  | finite first mantissa _, infinity second =>
    if mantissa == 0 then nan else infinity (first != second)
  | finite negative₁ mantissa₁ exponent₁, finite negative₂ mantissa₂ exponent₂ =>
    let parts := dividePower (mantissa₁ * mantissa₂) 1 (-(exponent₁ + exponent₂))
    ofRatio (negative₁ != negative₂) parts.1 parts.2

/-! ### Writing -/

/-- The greatest power of ten that is not above a positive fraction. -/
def leadingPower (numerator denominator : Nat) : Int :=
  let binary : Int := (numerator.log2 : Int) - (denominator.log2 : Int)
  let guess : Int := Int.fdiv (binary * 30103) 100000
  let reaches (power : Int) : Bool :=
    if 0 ≤ power then decide (denominator * Number.power 10 power.toNat ≤ numerator)
    else decide (denominator ≤ numerator * Number.power 10 (-power).toNat)
  ([guess + 2, guess + 1, guess, guess - 1].find? reaches).getD (guess - 2)

/-- The decimal with a number of digits that reads back as the positive number
    and is nearest to it, as digits and exponent. -/
def withDigits? (mantissa : Nat) (exponent : Int) (count : Nat) : Option (Nat × Int) :=
  let value := finite false mantissa exponent
  let parts := magnitude mantissa exponent
  let unit : Int := leadingPower parts.1 parts.2 - (count - 1 : Nat)
  let scaled := if 0 ≤ unit then (parts.1, parts.2 * Number.power 10 unit.toNat)
    else (parts.1 * Number.power 10 (-unit).toNat, parts.2)
  let low := scaled.1 / scaled.2
  let lowReads := ofDecimal false low unit == value
  let highReads := ofDecimal false (low + 1) unit == value
  if lowReads && highReads then some (roundQuotient scaled.1 scaled.2, unit)
  else if lowReads then some (low, unit)
  else if highReads then some (low + 1, unit)
  else none

/-- Moves trailing zeros of the digits into the exponent. -/
def dropZeros : Nat → Nat → Int → Nat × Int
  | 0, digits, exponent => (digits, exponent)
  | fuel + 1, digits, exponent =>
    if digits % 10 == 0 && digits != 0 then dropZeros fuel (digits / 10) (exponent + 1)
    else (digits, exponent)

/-- The shortest digits, with their exponent, that read back as a positive number. -/
def shortest (mantissa : Nat) (exponent : Int) : Nat × Int :=
  let counts := (List.range 17).map (· + 1)
  let found := (counts.findSome? (withDigits? mantissa exponent)).getD (mantissa, exponent)
  dropZeros 20 found.1 found.2

def layout (digits : Nat) (exponent : Int) : String :=
  let shown := (toString digits).toList
  let count : Int := shown.length
  let point := count + exponent
  let zeros (n : Int) : List Char := List.replicate n.toNat '0'
  if -4 < point && point ≤ 16 then
    String.ofList <|
      if point ≤ 0 then '0' :: '.' :: zeros (-point) ++ shown
      else if count ≤ point then shown ++ zeros (point - count) ++ ['.', '0']
      else shown.take point.toNat ++ '.' :: shown.drop point.toNat
  else
    let power := (toString (point - 1).natAbs).toList
    let padded := if power.length < 2 then '0' :: power else power
    let fraction := shown.drop 1
    String.ofList <|
      shown.take 1 ++ (if fraction.isEmpty then [] else '.' :: fraction)
        ++ 'e' :: (if point - 1 < 0 then '-' else '+') :: padded

def render : Binary64 → String
  | nan => "nan"
  | infinity negative => if negative then "-inf" else "inf"
  | finite negative mantissa exponent =>
    let magnitude :=
      if mantissa == 0 then "0.0"
      else
        let digits := shortest mantissa exponent
        layout digits.1 digits.2
    if negative then "-" ++ magnitude else magnitude

end Binary64

end FieldRules
