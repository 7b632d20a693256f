/-
  FieldRules/Text/Message.lean
  ============================
  **Texts as messages show them.**

  A text is shown between single quotes, or between double quotes when it
  holds a single quote and no double one.  The backslash and the quote in use
  are escaped, line feed, carriage return and tab have escapes of their own,
  and every other character that is not printable is shown by its code point in
  two, four or eight hexadecimal digits.

  Long names are shown up to a number of bytes only.  A character is encoded with
  one to four bytes; of one that is cut in two only a mark is left.  A place in a
  text of several lines is shown by its line and column.
-/
import FieldRules.Text.Printable

namespace FieldRules.Text

/-! ### Quotes -/

def quoteFor (text : List Char) : Char :=
  if text.contains '\x27' && !text.contains '\x22' then '\x22' else '\x27'

/-- The lower-case hexadecimal digits of a number, filled up with zeros to a width. -/
def hexDigits (width value : Nat) : List Char :=
  let digits := Nat.toDigits 16 value
  List.replicate (width - digits.length) '0' ++ digits

def escapeChar (quote c : Char) : List Char :=
  if c == quote || c == '\x5c' then ['\x5c', c]
  else if c == '\n' then ['\x5c', 'n']
  else if c == '\r' then ['\x5c', 'r']
  else if c == '\t' then ['\x5c', 't']
  else if isPrintable c then [c]
  else if c.toNat < 0x100 then '\x5c' :: 'x' :: hexDigits 2 c.toNat
  else if c.toNat < 0x10000 then '\x5c' :: 'u' :: hexDigits 4 c.toNat
  else '\x5c' :: 'U' :: hexDigits 8 c.toNat

def quoteChars (text : List Char) : List Char :=
  let quote := quoteFor text
  quote :: text.flatMap (escapeChar quote) ++ [quote]

def quoted (text : String) : String := String.ofList (quoteChars text.toList)

def quotedList (texts : List String) : String :=
  "[" ++ ", ".intercalate (texts.map quoted) ++ "]"

/-! ### Cut texts -/

def cutMark : Char := '\ufffd'

/-- The characters that so many bytes hold, with a mark for the one that they end in. -/
def cutChars : Nat → List Char → List Char
  | _, [] => []
  | 0, _ => []
  | bytes + 1, c :: rest =>
    if c.utf8Size ≤ bytes + 1 then c :: cutChars (bytes + 1 - c.utf8Size) rest else [cutMark]

def cutBytes (bytes : Nat) (text : String) : String := String.ofList (cutChars bytes text.toList)

/-! ### Line ends -/

/-- The text with every line end written as a line feed: a carriage return and
    a line feed after it are one line end, and so is a carriage return alone. -/
def unifyLineEnds : List Char → List Char
  | [] => []
  | '\r' :: '\n' :: rest => '\n' :: unifyLineEnds rest
  | '\r' :: rest => '\n' :: unifyLineEnds rest
  | c :: rest => c :: unifyLineEnds rest

/-- The line and the column, both from one on, of a position in a text. -/
def lineAndColumn (text : List Char) (position : Nat) : Nat × Nat :=
  let before := text.take position
  (before.count '\n' + 1, (before.reverse.takeWhile (· != '\n')).length + 1)

end FieldRules.Text
