/-
  FieldRules/Regex/Match.lean
  ===========================
  **Matching by backtracking.**

  A pattern denotes a matcher: given a place in the text and what has to follow
  after it, it tries its ways of matching in order and returns the first end
  that what follows accepts.  Choice, repetition and look-around are written
  directly as operations on matchers.

  A repetition goes round again only if the round before it has moved on, so
  the rounds beyond the required ones are at most one more than the characters
  that are left; this number bounds the recursion.
-/
import FieldRules.Regex.Basic

namespace FieldRules.Regex

open FieldRules.Text

/-- A place in a text: the characters before it (latest first), those after it,
    how many are before it, and the texts that groups have matched (latest first). -/
structure Cursor where
  before : List Char := []
  after : List Char
  position : Nat := 0
  groups : List (Nat × List Char) := []
deriving DecidableEq, Repr

/-- A way to match: from a place, with what has to follow, to the place at the end. -/
abbrev Matcher := Cursor → (Cursor → Option Cursor) → Option Cursor

namespace Cursor

def step? (cursor : Cursor) : Option (Char × Cursor) :=
  match cursor.after with
  | [] => none
  | c :: rest =>
    some (c, { cursor with
      before := c :: cursor.before, after := rest, position := cursor.position + 1 })

def back? : Nat → Cursor → Option Cursor
  | 0, cursor => some cursor
  | count + 1, cursor =>
    match cursor.before with
    | [] => none
    | c :: rest =>
      back? count { cursor with
        before := rest, after := c :: cursor.after, position := cursor.position - 1 }

def record (cursor : Cursor) (group : Nat) (text : List Char) : Cursor :=
  { cursor with groups := (group, text) :: cursor.groups.filter (·.1 != group) }

def nextIs (cursor : Cursor) (kind : Char → Bool) : Bool :=
  match cursor.after with
  | [] => false
  | c :: _ => kind c

def lastIs (cursor : Cursor) (kind : Char → Bool) : Bool :=
  match cursor.before with
  | [] => false
  | c :: _ => kind c

end Cursor

/-- Whether a place meets the condition of an anchor.  In an empty text no
    place is at a word boundary and none is away from one. -/
def Anchor.holds (anchor : Anchor) (cursor : Cursor) : Bool :=
  let changes (asciiOnly : Bool) : Bool :=
    cursor.lastIs (Category.word.admits asciiOnly) != cursor.nextIs (Category.word.admits asciiOnly)
  let inText := !(cursor.before.isEmpty && cursor.after.isEmpty)
  match anchor with
  | .textStart => cursor.before.isEmpty
  | .lineStart => cursor.before.isEmpty || cursor.lastIs (· == '\n')
  | .textEnd => cursor.after.isEmpty
  | .lastLineEnd => cursor.after.isEmpty || cursor.after == ['\n']
  | .lineEnd => cursor.after.isEmpty || cursor.nextIs (· == '\n')
  | .wordBoundary asciiOnly => inText && changes asciiOnly
  | .noWordBoundary asciiOnly => inText && !changes asciiOnly

def takeText (cases : CaseRule) : List Char → Cursor → Option Cursor
  | [], cursor => some cursor
  | expected :: rest, cursor =>
    match cursor.step? with
    | some (c, next) =>
      if cases.lower c.toNat == cases.lower expected.toNat then takeText cases rest next else none
    | none => none

/-! ### Repetition -/

/-- Whether one more round is allowed: the limit is not reached, and the last
    round did not start at this very place. -/
def mayRepeat (most : Option Nat) (last : Option Nat) (cursor : Cursor) : Bool :=
  most != some 0 && last != some cursor.position

/-- As many rounds as possible; fewer if what follows does not match then. -/
def greedily (body : Matcher) : Nat → Option Nat → Option Nat → Matcher
  | 0, _, _ => fun cursor next => next cursor
  | fuel + 1, most, last => fun cursor next =>
    if mayRepeat most last cursor then
      (body cursor fun after =>
        greedily body fuel (most.map (· - 1)) (some cursor.position) after next).orElse
        fun _ => next cursor
    else next cursor

/-- As few rounds as possible; more if what follows does not match then. -/
def lazily (body : Matcher) : Nat → Option Nat → Option Nat → Matcher
  | 0, _, _ => fun cursor next => next cursor
  | fuel + 1, most, last => fun cursor next =>
    (next cursor).orElse fun _ =>
      if mayRepeat most last cursor then
        body cursor fun after =>
          lazily body fuel (most.map (· - 1)) (some cursor.position) after next
      else none

/-- The end of as many rounds as possible, each matched on its own. -/
def possessively (body : Matcher) : Nat → Option Nat → Option Nat → Cursor → Cursor
  | 0, _, _, cursor => cursor
  | fuel + 1, most, last, cursor =>
    if mayRepeat most last cursor then
      match body cursor some with
      | some after => possessively body fuel (most.map (· - 1)) (some cursor.position) after
      | none => cursor
    else cursor

def required (body rest : Matcher) : Nat → Matcher
  | 0 => rest
  | count + 1 => fun cursor next => body cursor fun after => required body rest count after next

/-- A required number of rounds, each matched on its own. -/
def requiredAtomic (body : Matcher) : Nat → Cursor → Option Cursor
  | 0, cursor => some cursor
  | count + 1, cursor => (body cursor some).bind (requiredAtomic body count)

def repetition (body : Matcher) (least : Nat) (most : Option Nat) (eagerness : Eagerness) :
    Matcher :=
  let extra := most.map (· - least)
  let rounds (cursor : Cursor) : Nat := cursor.after.length + 2
  match eagerness with
  | .greedy =>
    required body (fun cursor next => greedily body (rounds cursor) extra none cursor next) least
  | .lazy =>
    required body (fun cursor next => lazily body (rounds cursor) extra none cursor next) least
  | .possessive => fun cursor next =>
    (requiredAtomic body least cursor).bind fun reached =>
      next (possessively body (rounds reached) extra none reached)

/-! ### Patterns as matchers -/

def matcher : Regex → Matcher
  | empty => fun cursor next => next cursor
  | char test => fun cursor next =>
    match cursor.step? with
    | some (c, after) => if test.admits c then next after else none
    | none => none
  | anchor condition => fun cursor next => if condition.holds cursor then next cursor else none
  | seq first second => fun cursor next =>
    first.matcher cursor fun middle => second.matcher middle next
  | alt first second => fun cursor next =>
    (first.matcher cursor next).orElse fun _ => second.matcher cursor next
  | capture group body => fun cursor next =>
    body.matcher cursor fun after =>
      next (after.record group (cursor.after.take (after.position - cursor.position)))
  | enclosed body => body.matcher
  | repeated body least most eagerness => repetition body.matcher least most eagerness
  | atomic body => fun cursor next => (body.matcher cursor some).bind next
  | look side negated body => fun cursor next =>
    let start := match side with
      | .ahead => some cursor
      | .behind width => cursor.back? width.least
    match start.bind fun place => body.matcher place some with
    | some found => if negated then none else next { cursor with groups := found.groups }
    | none => if negated then next cursor else none
  | backref group cases => fun cursor next =>
    match cursor.groups.lookup group with
    | some text => (takeText cases text cursor).bind next
    | none => none
  | conditional group present absent => fun cursor next =>
    if (cursor.groups.lookup group).isSome then present.matcher cursor next
    else absent.matcher cursor next

def matchAt (pattern : Regex) (cursor : Cursor) : Option Cursor :=
  pattern.matcher cursor some

/-- The end of the first match that begins at or after a place, where so many
    characters are left. -/
def searchFrom (pattern : Regex) : Nat → Cursor → Option Cursor
  | 0, cursor => pattern.matchAt cursor
  | count + 1, cursor =>
    (pattern.matchAt cursor).orElse fun _ =>
      match cursor.step? with
      | some (_, next) => searchFrom pattern count next
      | none => none

def isFoundIn (pattern : Regex) (text : String) : Bool :=
  let chars := text.toList
  (searchFrom pattern chars.length { after := chars }).isSome

end FieldRules.Regex
