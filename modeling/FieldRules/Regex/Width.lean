/-
  FieldRules/Regex/Width.lean
  ===========================
  **How many characters a pattern can take.**

  A look-behind is matched from a fixed number of characters back, so its pattern
  has to take one number of characters only.  Numbers above a limit are not told
  apart: the least number of characters is known below the limit, the greatest
  up to it, and a repetition without an end counts as many rounds as the limit.
  The limits are those of release 3.11.2; later releases have greater ones.

  The width of a pattern is told, and the pattern is translated, in calls inside of
  one another, as its parts stand inside of one another.  There is a limit of calls,
  and a pattern that needs more of them is refused.
-/
import FieldRules.Regex.Basic
import FieldRules.Regex.Problem

namespace FieldRules.Regex

/-- The number from which on a repetition count is refused, and the limit of widths. -/
def repeatLimit : Nat := 4294967295

/-- The width from which on a look-behind is refused by release 3.11.2, 2^31. -/
def lookbehindLimit : Nat := 0x80000000

/-- How many calls there are for the parts of a pattern that stand inside of one another,
    where text is compiled at the outermost level of a program.  Deeper in a program there
    are fewer, by the calls around. -/
def frameLimit : Nat := 986

def Bounds.capped (least greatest : Nat) : Bounds :=
  ⟨min least (repeatLimit - 1), min greatest repeatLimit⟩

/-- The bounds of a pattern, given those of the groups before it. -/
def bounds (groups : List (Nat × Bounds)) : Regex → Bounds
  | empty => ⟨0, 0⟩
  | char _ => ⟨1, 1⟩
  | anchor _ => ⟨0, 0⟩
  | seq first second =>
    let a := bounds groups first
    let b := bounds groups second
    Bounds.capped (a.least + b.least) (a.greatest + b.greatest)
  | alt first second =>
    let a := bounds groups first
    let b := bounds groups second
    ⟨min a.least b.least, max a.greatest b.greatest⟩
  | capture _ body => bounds groups body
  | enclosed body => bounds groups body
  | repeated body least most _ =>
    let inner := bounds groups body
    Bounds.capped (inner.least * least) (inner.greatest * most.getD repeatLimit)
  | atomic body => bounds groups body
  | look _ _ _ => ⟨0, 0⟩
  | backref group _ => (groups.lookup group).getD ⟨0, 0⟩
  | conditional _ present absent =>
    let a := bounds groups present
    let b := bounds groups absent
    ⟨min a.least b.least, max a.greatest b.greatest⟩

/-! ### Patterns that are read but refused -/

/-- Whether a pattern is a choice, whose second part may hold the rest of the choices. -/
def isChoice : Regex → Bool
  | alt _ _ => true
  | _ => false

/-- How many calls inside of one another it takes to tell the width of a pattern.  The
    widths of its groups with a number are known, and look-arounds have none. -/
def widthFrames : Regex → Nat
  | empty | char _ | anchor _ | backref _ _ | look _ _ _ => 0
  | capture _ _ => 1
  | seq first second => max (widthFrames first) (widthFrames second)
  | alt first second =>
    max (widthFrames first + 1) (widthFrames second + if second.isChoice then 0 else 1)
  | enclosed body | repeated body _ _ _ | atomic body => widthFrames body + 1
  | conditional _ present absent => max (widthFrames present) (widthFrames absent) + 1

/-- The first problem that only the whole pattern shows, where there are so many calls
    for the parts that stand inside of it: a look-behind of no fixed width, a repetition
    in a template, or a part for which there is no call. -/
def shapeProblem? (template : Bool) (room : Nat) : Regex → Option Problem
  | empty | char _ | anchor _ | backref _ _ => none
  | seq first second =>
    (shapeProblem? template room first).or (shapeProblem? template room second)
  | alt first second =>
    if room == 0 then some .tooDeep
    else
      (shapeProblem? template (room - 1) first).or
        (shapeProblem? template (if second.isChoice then room else room - 1) second)
  | capture _ body | enclosed body | atomic body | look .ahead _ body =>
    if room == 0 then some .tooDeep else shapeProblem? template (room - 1) body
  | repeated body _ _ eagerness =>
    if template then
      some <| .repeatInTemplate <|
        match eagerness with
        | .greedy => "MAX_REPEAT"
        | .lazy => "MIN_REPEAT"
        | .possessive => "POSSESSIVE_REPEAT"
    else if room == 0 then some .tooDeep
    else shapeProblem? template (room - 1) body
  | look (.behind width) _ body =>
    if room ≤ widthFrames body then some .tooDeep
    else if width.least != width.greatest then some .looseLookbehind
    else shapeProblem? template (room - 1) body
  | conditional _ present absent =>
    if room == 0 then some .tooDeep
    else (shapeProblem? template (room - 1) present).or (shapeProblem? template (room - 1) absent)

/-- Whether a pattern looks behind by so many characters that release 3.11.2 refuses it. -/
def looksTooFar : Regex → Bool
  | empty | char _ | anchor _ | backref _ _ => false
  | seq first second => looksTooFar first || looksTooFar second
  | alt first second => looksTooFar first || looksTooFar second
  | capture _ body => looksTooFar body
  | enclosed body => looksTooFar body
  | atomic body => looksTooFar body
  | repeated body _ _ _ => looksTooFar body
  | look (.behind width) _ body => decide (lookbehindLimit ≤ width.least) || looksTooFar body
  | look .ahead _ body => looksTooFar body
  | conditional _ present absent => looksTooFar present || looksTooFar absent

end FieldRules.Regex
