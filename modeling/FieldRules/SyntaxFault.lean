/-
  FieldRules/SyntaxFault.lean
  ===========================
  **What can be wrong with rule text, and where.**

  Rule text and argument text share one kind of fault: a problem, the whole
  text that was being read, and the offset in it, counted in characters.
-/
import FieldRules.Text.Message

namespace FieldRules

open FieldRules.Text

/-- The ways in which rule text or argument text is malformed. -/
inductive SyntaxProblem where
  /-- No token begins with the character. -/
  | unexpectedCharacter (found : Char)
  /-- The character can neither continue nor close an integer. -/
  | invalidInInteger (found : Char)
  /-- The character can neither continue nor close a symbol. -/
  | invalidInSymbol (found : Char)
  /-- The character may not stand in a quoted string. -/
  | unprintableInString (found : Char)
  /-- The character may not follow a backslash. -/
  | unprintableAfterEscape (found : Char)
  /-- The text ends inside a quoted string. -/
  | unterminatedString
  /-- Something stands where a rule has to begin. -/
  | expectedInvocation
  /-- No rule follows the last comma. -/
  | trailingSeparator
deriving DecidableEq, Repr

def SyntaxProblem.message : SyntaxProblem → String
  | unexpectedCharacter c => "Unexpected character " ++ quoted c.toString
  | invalidInInteger c => "Invalid character in integer literal " ++ quoted c.toString
  | invalidInSymbol c => "Invalid character in constant name " ++ quoted c.toString
  | unprintableInString c => "Non-printable character in string literal " ++ quoted c.toString
  | unprintableAfterEscape c => "Non-printable character after escape " ++ quoted c.toString
  | unterminatedString => "Unterminated string literal"
  | expectedInvocation => "Expected a rule invocation of the form name(args)"
  | trailingSeparator => "Trailing separator after last rule"

/-- A problem at an offset of a text. -/
structure SyntaxFault where
  problem : SyntaxProblem
  text : String
  offset : Nat
deriving DecidableEq, Repr

def SyntaxFault.message (fault : SyntaxFault) : String :=
  "Syntax error at offset " ++ toString fault.offset ++ " in " ++ quoted fault.text ++ ": "
    ++ fault.problem.message

end FieldRules
