/-
  FieldRules/CommandLine/Screen.lean
  ==================================
  **What a command shows.**

  A command shows a table or lines of text, writes lines about errors, and ends
  with a code.  On a screen, control characters have no place and tabs lead to
  the next column that is a multiple of eight.  The lines of text are shown without
  the blanks around them, those about errors with them.
-/
import FieldRules.CommandLine.Markup
import FieldRules.Text.CellWidth

namespace FieldRules.CommandLine

open FieldRules.Text

/-- What a command shows, and the code that it ends with.  The first row of a
    table is its header. -/
structure Screen where
  code : Nat := 0
  table : List (List String) := []
  lines : List String := []
  errors : List String := []
deriving DecidableEq, Repr

def isMove (c : Char) : Bool :=
  c == '\x07' || c == '\x08' || c == '\x0b' || c == '\x0c' || c == '\x0d'

/-- The parts of a line between its tabs from a column on, with blanks for the tabs:
    at least one, and as many as lead to a multiple of eight. -/
def fillTabs : Nat → List (List Char) → List Char
  | _, [] => []
  | _, [last] => last
  | column, part :: rest =>
    let reached := column + cellLength (part ++ [' '])
    let more := (8 - reached % 8) % 8
    part ++ ' ' :: List.replicate more ' ' ++ fillTabs (reached + more) rest

def isVisible (line : String) : Bool := line.toList.any (!isBlank ·)

def visibleLines (text : String) : List String :=
  ((text.toList.splitOn '\n').map String.ofList).filter isVisible

/-- The lines that marked-up text takes on a screen, without those that are blank, or
    nothing if the text ends what is not open. -/
def screenLines? (markup : String) : Option (List String) :=
  (Markup.shown? markup).map fun text =>
    let lines := (text.toList.filter (!isMove ·)).splitOn '\n'
    (lines.map fun line => String.ofList (fillTabs 0 (line.splitOn '\t'))).filter isVisible

def trimLine (line : String) : String := String.ofList (trim line.toList)

end FieldRules.CommandLine
