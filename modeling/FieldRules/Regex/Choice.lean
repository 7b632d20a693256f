/-
  FieldRules/Regex/Choice.lean
  ============================
  **Choices.**

  A choice tries its patterns in turn.  Where the patterns differ in nothing but
  one character, the choice is a character set: the atoms that all of them begin
  with are matched first, and then one character from the entries of all.  An
  entry of a set is compared as one among others, which makes a difference
  beyond the basic plane.
-/
import FieldRules.Regex.Basic

namespace FieldRules

namespace Regex

/-- The patterns that a pattern puts one after the other. -/
def parts : Regex → List Regex
  | empty => []
  | seq first second => first.parts ++ second.parts
  | part => [part]

def isSameAtom : Regex → Regex → Bool
  | char test, char other => test == other
  | anchor place, anchor other => place == other
  | backref group cases, backref other otherCases => group == other && cases == otherCases
  | _, _ => false

/-- Takes the atoms from a sequence of patterns that some others begin with as
    well: the atoms, what is left of the sequence, and what is left of the others. -/
def splitCommonStart : List Regex → List (List Regex) →
    List Regex × List Regex × List (List Regex)
  | [], others => ([], [], others)
  | part :: rest, others =>
    if others.all fun other => other.head?.any (isSameAtom part) then
      let (start, left, othersLeft) := splitCommonStart rest (others.map List.tail)
      (part :: start, left, othersLeft)
    else ([], part :: rest, others)

/-- The test of a sequence that asks for one listed character and nothing else. -/
def listing? : List Regex → Option CharTest
  | [char test] => if test.negated then none else some test
  | _ => none

/-- The test for a character that one of several tests for listed characters
    admits, if they compare letters in one way. -/
def joinListings (first : CharTest) (others : List CharTest) : Option CharTest :=
  if others.all (·.cases == first.cases) then
    some { items := SetItem.listed ((first :: others).flatMap (·.items)), cases := first.cases }
  else none

/-- The first of the patterns that leads to a match. -/
def alternatives (first : Regex) : List Regex → Regex
  | [] => first
  | second :: rest => alt first (alternatives second rest)

/-- The choice between patterns, as a character set if they differ in one character only. -/
def choice (first : Regex) (others : List Regex) : Regex :=
  let (start, left, othersLeft) := splitCommonStart first.parts (others.map parts)
  match others, listing? left, othersLeft.mapM listing? with
  | _ :: _, some test, some tests =>
    match joinListings test tests with
    | some joined => sequence (start ++ [char joined])
    | none => alternatives first others
  | _, _, _ => alternatives first others

end Regex

end FieldRules
