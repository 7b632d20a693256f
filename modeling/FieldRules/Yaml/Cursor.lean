/-
  FieldRules/Yaml/Cursor.lean
  ===========================
  **Places in a YAML document.**

  A place knows the characters after it and its line and column.  A byte order
  mark takes no column.  The end of the document is met as the absence of a
  character.
-/
import FieldRules.Text.Character

namespace FieldRules.Yaml

open FieldRules.Text

/-- A place in a document. -/
structure Cursor where
  after : List Char
  index : Nat := 0
  line : Nat := 0
  column : Nat := 0
deriving Repr

def admittedRanges : Ranges :=
  [(0x09, 0x0a), (0x0d, 0x0d), (0x20, 0x7e), (0x85, 0x85), (0xa0, 0xd7ff), (0xe000, 0xfffd),
   (0x10000, 0x10ffff)]

def isBreak (c : Char) : Bool :=
  c == '\n' || c == '\r' || c == '\u0085' || c == '\u2028' || c == '\u2029'

def isSpace (c : Char) : Bool := c == ' ' || c == '\t'

def isWordChar (c : Char) : Bool := c.isAlphanum || c == '-' || c == '_'

namespace Cursor

def peek (cursor : Cursor) (distance : Nat) : Option Char := cursor.after[distance]?

def sees (cursor : Cursor) (distance : Nat) (kind : Char → Bool) : Bool :=
  match cursor.peek distance with
  | some c => kind c
  | none => false

def seesChar (cursor : Cursor) (distance : Nat) (c : Char) : Bool := cursor.sees distance (· == c)

def endsOr (cursor : Cursor) (distance : Nat) (kind : Char → Bool) : Bool :=
  match cursor.peek distance with
  | some c => kind c
  | none => true

def lineEnds (cursor : Cursor) (distance : Nat) : Bool := cursor.endsOr distance isBreak

def wordEnds (cursor : Cursor) (distance : Nat) : Bool :=
  cursor.endsOr distance fun c => isSpace c || isBreak c

def step (cursor : Cursor) : Cursor :=
  match cursor.after with
  | [] => cursor
  | c :: rest =>
    let endsLine := isBreak c && !(c == '\r' && rest.head? == some '\n')
    { after := rest
      index := cursor.index + 1
      line := if endsLine then cursor.line + 1 else cursor.line
      column :=
        if endsLine then 0
        else if c == '\ufeff' then cursor.column
        else cursor.column + 1 }

def forward : Nat → Cursor → Cursor
  | 0, cursor => cursor
  | count + 1, cursor => forward count cursor.step

def run (cursor : Cursor) (kind : Char → Bool) : List Char := cursor.after.takeWhile kind

def skip (cursor : Cursor) (kind : Char → Bool) : Cursor :=
  cursor.forward (cursor.run kind).length

/-- The end of a line at a place, as the character it counts as, and the place
    after it. -/
def takeBreak? (cursor : Cursor) : Option (Char × Cursor) :=
  match cursor.after with
  | '\r' :: '\n' :: _ => some ('\n', cursor.forward 2)
  | c :: _ =>
    if c == '\u2028' || c == '\u2029' then some (c, cursor.step)
    else if isBreak c then some ('\n', cursor.step)
    else none
  | [] => none

/-- Whether a mark of three characters stands at the start of a line, by itself. -/
def marks (cursor : Cursor) (mark : List Char) : Bool :=
  cursor.after.take 3 == mark && cursor.wordEnds 3

def atDocumentMark (cursor : Cursor) : Bool :=
  cursor.marks ['-', '-', '-'] || cursor.marks ['.', '.', '.']

end Cursor

end FieldRules.Yaml
