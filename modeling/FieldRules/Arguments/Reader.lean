/-
  FieldRules/Arguments/Reader.lean
  ================================
  **Reading argument text, one character at a time.**

  The reader is an automaton.  Between tokens it skips commas and blanks; a
  digit, an upper-case letter or a quote begins a token.  Integers and symbols
  are closed by a separator or by the end of the text, a string closes itself
  with its second quote.  An integer is reduced modulo 2^64 digit by digit, so
  the value kept is always that of the whole numeral modulo 2^64.

  A reader keeps what it has found from one pass to the next, also when a pass
  ends in a fault: a second pass continues where the first one stopped, in the
  mode it stopped in, and adds to the same arguments.
-/
import FieldRules.Arguments.Basic
import FieldRules.SyntaxFault
import FieldRules.Text.Character
import FieldRules.Name

namespace FieldRules

open FieldRules.Text

namespace Arguments

/-! ### Character classes -/

def isSeparator (c : Char) : Bool := c == ',' || isBlank c

def digitOf (c : Char) : Nat := c.toNat - '0'.toNat

/-! ### The automaton -/

/-- Where a reader stands: between two tokens, or inside one. -/
inductive Mode where
  /-- Before, between or after tokens. -/
  | between
  /-- Inside an integer. -/
  | integer
  /-- Inside a symbol. -/
  | symbol
  /-- Inside a quoted string. -/
  | quoted
  /-- Inside a quoted string, right after a backslash. -/
  | escaped
deriving DecidableEq, Repr

/-- What a reader knows: its mode, the value of the integer it is in, the
    characters of the symbol or string it is in (latest first), the arguments
    found so far, and the offset at which the last token began. -/
structure Progress where
  mode : Mode := .between
  value : Nat := 0
  pending : List Char := []
  found : Arguments := {}
  start : Nat := 0
deriving DecidableEq, Repr

/-- Takes one character, standing at an offset, or says why it cannot. -/
def Progress.feed (progress : Progress) (c : Char) (offset : Nat) :
    Except SyntaxProblem Progress :=
  match progress.mode with
  | .between =>
    if c.isDigit then .ok { progress with mode := .integer, value := digitOf c, start := offset }
    else if c.isUpper then
      .ok { progress with mode := .symbol, pending := c :: progress.pending, start := offset }
    else if c == '\x27' then .ok { progress with mode := .quoted, start := offset }
    else if isSeparator c then .ok progress
    else .error (.unexpectedCharacter c)
  | .integer =>
    if isSeparator c then
      .ok { progress with mode := .between, found := progress.found.addInteger progress.value }
    else if c.isDigit then
      .ok { progress with value := (progress.value * 10 + digitOf c) % integerModulus }
    else .error (.invalidInInteger c)
  | .symbol =>
    if isSeparator c then
      .ok { progress with
        mode := .between, pending := []
        found := progress.found.addSymbol progress.pending.reverse }
    else if Name.isSymbolChar c then .ok { progress with pending := c :: progress.pending }
    else .error (.invalidInSymbol c)
  | .quoted =>
    if c == '\x27' then
      .ok { progress with
        mode := .between, pending := []
        found := progress.found.addString progress.pending.reverse }
    else if c == '\x5c' then .ok { progress with mode := .escaped }
    else if isPrintable c then .ok { progress with pending := c :: progress.pending }
    else .error (.unprintableInString c)
  | .escaped =>
    if isPrintable c then .ok { progress with mode := .quoted, pending := c :: progress.pending }
    else .error (.unprintableAfterEscape c)

/-- Closes the token that the end of the text closes; inside a string the text
    may not end. -/
def Progress.finish (progress : Progress) : Except SyntaxProblem Progress :=
  match progress.mode with
  | .between => .ok progress
  | .integer =>
    .ok { progress with mode := .between, found := progress.found.addInteger progress.value }
  | .symbol =>
    .ok { progress with
      mode := .between, pending := []
      found := progress.found.addSymbol progress.pending.reverse }
  | .quoted | .escaped => .error .unterminatedString

/-- Takes the characters from an offset on and closes the last token.  The
    progress made is returned in any case, with the fault that stopped it, if
    one did. -/
def Progress.read (progress : Progress) (offset : Nat) :
    List Char → Progress × Option (SyntaxProblem × Nat)
  | [] =>
    match progress.finish with
    | .ok done => (done, none)
    | .error problem => (progress, some (problem, progress.start))
  | c :: rest =>
    match progress.feed c offset with
    | .ok next => next.read (offset + 1) rest
    | .error problem => (progress, some (problem, offset))

/-! ### Readers of a text -/

/-- A reader of one text, with the progress of all its passes. -/
structure Reader where
  text : String
  progress : Progress := {}

/-- Makes one pass over the whole text and gives all the arguments found by now. -/
def Reader.pass (reader : Reader) : Reader × Except SyntaxFault Arguments :=
  match reader.progress.read 0 reader.text.toList with
  | (progress, none) => ({ reader with progress := progress }, .ok progress.found)
  | (progress, some (problem, offset)) =>
    ({ reader with progress := progress }, .error ⟨problem, reader.text, offset⟩)

def Reader.passes (reader : Reader) : Nat → List (Except SyntaxFault Arguments)
  | 0 => []
  | count + 1 =>
    let (next, result) := reader.pass
    result :: next.passes count

def parse (text : String) : Except SyntaxFault Arguments :=
  (Reader.pass { text := text }).2

end Arguments

end FieldRules
