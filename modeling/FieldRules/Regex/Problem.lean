/-
  FieldRules/Regex/Problem.lean
  =============================
  **What can be wrong with a written pattern.**

  A fault names its problem and, for most problems, the place in the pattern.
  The place is an offset; patterns of several lines are given line and column
  too.  Six problems are no faults of notation and are told apart from the
  others: a repetition count that is too large or has too many digits to be read,
  a code point or a look-behind beyond the supported range, groups inside of too
  many others, and two flags that exclude each other in one pattern.
-/
import FieldRules.Number.Numeral
import FieldRules.Text.Message

namespace FieldRules.Regex

open FieldRules.Text

/-- The problems of written patterns. -/
inductive Problem where
  | nothingToRepeat
  | multipleRepeat
  | repeatBoundsReversed
  | repeatTooLarge
  | unterminatedSet
  | badRange (first last : String)
  | danglingEscape
  | badEscape (escape : String)
  | incompleteEscape (escape : String)
  | octalTooLarge (escape : String)
  | missingBrace
  | unknownCharacterName (name : String)
  | missingName (what : String)
  | unterminatedName (terminator : Char)
  | badGroupName (name : String)
  | unknownGroupName (name : String)
  | redefinedGroupName (name : String) (group earlier : Nat)
  | openGroup
  | groupInSameLookbehind
  | invalidGroup (group : Int)
  | badGroupNumber
  | unexpectedEnd
  | unknownExtension (extension : String)
  | unterminatedComment
  | unterminatedGroup
  | tooManyBranches
  | misplacedFlags
  | unknownFlag
  | missingFlagEnd
  | missingFlag
  | missingColon
  | bytesFlag
  | exclusiveFlags
  | lockedFlags
  | globalFlagOn
  | globalFlagOff
  | contradictoryFlags
  | unbalancedParenthesis
  | looseLookbehind
  | farLookbehind
  | repeatInTemplate (operator : String)
  | incompatibleFlags
  | codePointTooLarge
  /-- A repetition count has this many digits. -/
  | repeatTooLong (digits : Nat)
  /-- A part of the pattern stands inside of too many others. -/
  | tooDeep
deriving DecidableEq, Repr

namespace Problem

def message : Problem → String
  | nothingToRepeat => "nothing to repeat"
  | multipleRepeat => "multiple repeat"
  | repeatBoundsReversed => "min repeat greater than max repeat"
  | repeatTooLarge => "the repetition number is too large"
  | unterminatedSet => "unterminated character set"
  | badRange first last => "bad character range " ++ first ++ "-" ++ last
  | danglingEscape => "bad escape (end of pattern)"
  | badEscape escape => "bad escape " ++ escape
  | incompleteEscape escape => "incomplete escape " ++ escape
  | octalTooLarge escape => "octal escape value " ++ escape ++ " outside of range 0-0o377"
  | missingBrace => "missing \x7b"
  | unknownCharacterName name => "undefined character name " ++ quoted name
  | missingName what => "missing " ++ what
  | unterminatedName terminator => "missing " ++ terminator.toString ++ ", unterminated name"
  | badGroupName name => "bad character in group name " ++ quoted name
  | unknownGroupName name => "unknown group name " ++ quoted name
  | redefinedGroupName name group earlier =>
    "redefinition of group name " ++ quoted name ++ " as group " ++ toString group
      ++ "; was group " ++ toString earlier
  | openGroup => "cannot refer to an open group"
  | groupInSameLookbehind =>
    "cannot refer to group defined in the same lookbehind subpattern"
  | invalidGroup group => "invalid group reference " ++ toString group
  | badGroupNumber => "bad group number"
  | unexpectedEnd => "unexpected end of pattern"
  | unknownExtension extension => "unknown extension ?" ++ extension
  | unterminatedComment => "missing ), unterminated comment"
  | unterminatedGroup => "missing ), unterminated subpattern"
  | tooManyBranches => "conditional backref with more than two branches"
  | misplacedFlags => "global flags not at the start of the expression"
  | unknownFlag => "unknown flag"
  | missingFlagEnd => "missing -, : or )"
  | missingFlag => "missing flag"
  | missingColon => "missing :"
  | bytesFlag => "bad inline flags: cannot use 'L' flag with a str pattern"
  | exclusiveFlags => "bad inline flags: flags 'a', 'u' and 'L' are incompatible"
  | lockedFlags => "bad inline flags: cannot turn off flags 'a', 'u' and 'L'"
  | globalFlagOn => "bad inline flags: cannot turn on global flag"
  | globalFlagOff => "bad inline flags: cannot turn off global flag"
  | contradictoryFlags => "bad inline flags: flag turned on and off"
  | unbalancedParenthesis => "unbalanced parenthesis"
  | looseLookbehind => "look-behind requires fixed-width pattern"
  | farLookbehind => "invalid SRE code"
  | repeatInTemplate operator => "internal: unsupported template operator " ++ operator
  | incompatibleFlags => "ASCII and UNICODE flags are incompatible"
  | codePointTooLarge => "Python int too large to convert to C int"
  | repeatTooLong digits => Number.tooLongToRead digits
  | tooDeep => "maximum recursion depth exceeded"

def isMalformed : Problem → Bool
  | repeatTooLarge => false
  | incompatibleFlags => false
  | codePointTooLarge => false
  | farLookbehind => false
  | repeatTooLong _ => false
  | tooDeep => false
  | _ => true

end Problem

/-- A problem of a pattern, and its place if it has one. -/
structure Fault where
  problem : Problem
  pattern : String
  position : Option Nat
deriving DecidableEq, Repr

def Fault.message (fault : Fault) : String :=
  match fault.position with
  | none => fault.problem.message
  | some position =>
    let located := fault.problem.message ++ " at position " ++ toString position
    if fault.pattern.toList.contains '\n' then
      let before := fault.pattern.toList.take position
      let column := (before.reverse.takeWhile (· != '\n')).length + 1
      located ++ " (line " ++ toString (before.count '\n' + 1) ++ ", column "
        ++ toString column ++ ")"
    else located

end FieldRules.Regex
