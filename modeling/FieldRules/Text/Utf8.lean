/-
  FieldRules/Text/Utf8.lean
  =========================
  **Decoding UTF-8, with an account of the first fault.**

  A character is written with one to four bytes.  The first byte says how many;
  the ranges of the second byte exclude overlong forms, surrogates and code
  points beyond the last one.  A fault covers the bytes that could still have
  begun a character: a byte that begins none, the bytes before one that does not
  continue them, or all bytes to the end if the text ends too early.
-/
namespace FieldRules.Text.Utf8

inductive FaultKind where
  | invalidStart
  | invalidContinuation
  | unexpectedEnd
deriving DecidableEq, Repr

def FaultKind.message : FaultKind → String
  | invalidStart => "invalid start byte"
  | invalidContinuation => "invalid continuation byte"
  | unexpectedEnd => "unexpected end of data"

/-- A fault: its kind, the first byte it covers, the position of that byte, and
    how many bytes it covers. -/
structure Fault where
  kind : FaultKind
  byte : Nat
  position : Nat
  count : Nat
deriving DecidableEq, Repr

def Fault.message (fault : Fault) : String :=
  let digits := Nat.toDigits 16 fault.byte
  let hex := String.ofList (if digits.length < 2 then '0' :: digits else digits)
  let place :=
    if fault.count == 1 then
      "byte 0x" ++ hex ++ " in position " ++ toString fault.position
    else
      "bytes in position " ++ toString fault.position ++ "-"
        ++ toString (fault.position + fault.count - 1)
  "'utf-8' codec can't decode " ++ place ++ ": " ++ fault.kind.message

def isContinuation (byte : Nat) : Bool := decide (0x80 ≤ byte) && decide (byte < 0xc0)

def lengthOf? (first : Nat) : Option Nat :=
  if first < 0x80 then some 1
  else if first < 0xc2 then none
  else if first < 0xe0 then some 2
  else if first < 0xf0 then some 3
  else if first < 0xf5 then some 4
  else none

def maySecond (first second : Nat) : Bool :=
  isContinuation second &&
    (if first == 0xe0 then decide (0xa0 ≤ second)
    else if first == 0xed then decide (second < 0xa0)
    else if first == 0xf0 then decide (0x90 ≤ second)
    else if first == 0xf4 then decide (second < 0x90)
    else true)

/-- How many of the bytes after the first one, at most so many, can follow it. -/
def goodFollowers (first : Nat) (wanted : Nat) (bytes : List Nat) : Nat :=
  let candidates := bytes.take wanted
  match candidates with
  | [] => 0
  | second :: rest =>
    if maySecond first second then 1 + (rest.takeWhile isContinuation).length else 0

def leadBits (first : Nat) : Nat :=
  if first < 0x80 then first
  else if first < 0xe0 then first - 0xc0
  else if first < 0xf0 then first - 0xe0
  else first - 0xf0

/-- The characters that bytes from a position on stand for, at most so many bytes. -/
def decodeFrom : Nat → Nat → List Nat → Except Fault (List Char)
  | 0, _, _ => .ok []
  | _, _, [] => .ok []
  | fuel + 1, position, first :: rest =>
    match lengthOf? first with
    | none => .error ⟨.invalidStart, first, position, 1⟩
    | some length =>
      let good := goodFollowers first (length - 1) rest
      if good + 1 == length then
        let point := (rest.take good).foldl (fun bits byte => bits * 64 + (byte - 0x80))
          (leadBits first)
        (decodeFrom fuel (position + length) (rest.drop good)).map (Char.ofNat point :: ·)
      else if good == rest.length then
        .error ⟨.unexpectedEnd, first, position, good + 1⟩
      else .error ⟨.invalidContinuation, first, position, good + 1⟩

def decode (bytes : List Nat) : Except Fault (List Char) := decodeFrom bytes.length 0 bytes

end FieldRules.Text.Utf8
