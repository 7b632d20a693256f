/-
  FieldRules/Regex/Basic.lean
  ===========================
  **Patterns.**

  A pattern in which every name, flag and shorthand has been resolved: atoms
  test one character, anchors test the place, and the rest combines patterns.
-/
import FieldRules.Regex.CharTest

namespace FieldRules

namespace Regex

/-- The least and the greatest number of characters that a pattern can take. -/
structure Bounds where
  least : Nat
  greatest : Nat
deriving DecidableEq, Repr

/-- Conditions on a place in the text. -/
inductive Anchor where
  /-- The start of the text. -/
  | textStart
  /-- The start of a line. -/
  | lineStart
  /-- The end of the text. -/
  | textEnd
  /-- The end of the text, or before a line feed that ends it. -/
  | lastLineEnd
  /-- The end of a line. -/
  | lineEnd
  /-- A word begins or ends here. -/
  | wordBoundary (asciiOnly : Bool)
  /-- No word begins or ends here. -/
  | noWordBoundary (asciiOnly : Bool)
deriving DecidableEq, Repr

/-- Which of the possible numbers of repetitions is tried first. -/
inductive Eagerness where
  /-- As many as possible. -/
  | greedy
  /-- As few as possible. -/
  | lazy
  /-- As many as possible, and no other number. -/
  | possessive
deriving DecidableEq, Repr

/-- Where a look-around pattern is matched. -/
inductive Side where
  | ahead
  /-- Behind the place, from a number of characters back. -/
  | behind (width : Bounds)
deriving DecidableEq, Repr

end Regex

/-- A pattern. -/
inductive Regex where
  | empty
  | char (test : Regex.CharTest)
  | anchor (anchor : Regex.Anchor)
  | seq (first second : Regex)
  | alt (first second : Regex)
  | capture (group : Nat) (body : Regex)
  /-- Matches as its body does; the body, read under flags of its own, is not
      joined with what is around. -/
  | enclosed (body : Regex)
  /-- At least so many repetitions and, if a number is given, at most so many. -/
  | repeated (body : Regex) (least : Nat) (most : Option Nat) (eagerness : Regex.Eagerness)
  /-- Matches as its body does first, and in no other way. -/
  | atomic (body : Regex)
  | look (side : Regex.Side) (negated : Bool) (body : Regex)
  /-- The text that a group has matched. -/
  | backref (group : Nat) (cases : Regex.CaseRule)
  /-- One of two patterns, by whether a group has matched. -/
  | conditional (group : Nat) (present absent : Regex)
deriving DecidableEq, Repr

namespace Regex

def sequence (items : List Regex) : Regex :=
  items.foldr (fun item rest => match rest with | empty => item | _ => seq item rest) empty

end Regex

end FieldRules
