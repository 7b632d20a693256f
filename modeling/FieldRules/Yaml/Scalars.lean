/-
  FieldRules/Yaml/Scalars.lean
  ============================
  **The written forms of scalars: plain, quoted and block scalars.**

  Each reader takes the place at which a scalar begins and gives its content
  and the place after it.  Line ends inside of a scalar are folded: a single one
  becomes a space, and each further one becomes a line feed.
-/
import FieldRules.Number.Numeral
import FieldRules.Yaml.Cursor
import FieldRules.Yaml.Token

namespace FieldRules.Yaml

open FieldRules.Text

/-- A line end that is folded: alone it is a space, with others only they count. -/
def foldBreaks (first : Char) (others : List Char) : List Char :=
  if first != '\n' then first :: others
  else if others.isEmpty then [' ']
  else others

/-! ### Quoted scalars -/

def simpleEscape? : Char → Option Char
  | '0' => some '\x00'
  | 'a' => some '\x07'
  | 'b' => some '\x08'
  | 't' => some '\t'
  | '\t' => some '\t'
  | 'n' => some '\n'
  | 'v' => some '\x0b'
  | 'f' => some '\x0c'
  | 'r' => some '\r'
  | 'e' => some '\x1b'
  | ' ' => some ' '
  | '\x22' => some '\x22'
  | '\x5c' => some '\x5c'
  | '/' => some '/'
  | 'N' => some '\u0085'
  | '_' => some '\u00a0'
  | 'L' => some '\u2028'
  | 'P' => some '\u2029'
  | _ => none

/-- How many digits follow the letter of an escape by code point. -/
def codePointDigits? : Char → Option Nat
  | 'x' => some 2
  | 'u' => some 4
  | 'U' => some 8
  | _ => none

/-- The line ends at a place and the blanks around them; a mark of a document
    may not stand there. -/
def quotedBreaks : Nat → Cursor → Except Fault (List Char × Cursor)
  | 0, cursor => .ok ([], cursor)
  | fuel + 1, cursor =>
    if cursor.atDocumentMark then .error .malformed
    else
      let cursor := cursor.skip isSpace
      match cursor.takeBreak? with
      | none => .ok ([], cursor)
      | some (c, next) => (quotedBreaks fuel next).map fun (more, after) => (c :: more, after)

/-- Blanks inside a quoted scalar: kept within a line, folded at its end. -/
def quotedBlanks (cursor : Cursor) : Except Fault (List Char × Cursor) :=
  let blanks := cursor.run isSpace
  let next := cursor.skip isSpace
  match next.peek 0 with
  | none => .error .malformed
  | some _ =>
    match next.takeBreak? with
    | none => .ok (blanks, next)
    | some (c, after) => do
      let (others, after) ← quotedBreaks after.after.length after
      return (foldBreaks c others, after)

def codePointEscape (count : Nat) (cursor : Cursor) : Except Fault (Char × Cursor) :=
  let digits := (cursor.after.take count).takeWhile isHexDigit
  if digits.length != count then .error .malformed
  else
    let point := Number.ofDigits 16 (digits.filterMap hexValue?)
    if 0x80000000 ≤ point then .error (.codePointTooLarge true)
    else if 0x110000 ≤ point then .error (.codePointTooLarge false)
    else .ok (if 0xd800 ≤ point ∧ point < 0xe000 then '\ufffd' else Char.ofNat point,
      cursor.forward count)

def quotedEscape (cursor : Cursor) : Except Fault (List Char × Cursor) :=
  match cursor.peek 0 with
  | none => .error .malformed
  | some c =>
    match simpleEscape? c, codePointDigits? c with
    | some meant, _ => .ok ([meant], cursor.step)
    | none, some count => (codePointEscape count cursor.step).map fun (d, next) => ([d], next)
    | none, none =>
      match cursor.takeBreak? with
      | some (_, next) => quotedBreaks next.after.length next
      | none => .error .malformed

def readQuotedFrom (double : Bool) : Nat → List Char → Cursor → Except Fault (List Char × Cursor)
  | 0, _, _ => .error .malformed
  | fuel + 1, found, cursor =>
    match cursor.peek 0 with
    | none => .error .malformed
    | some c =>
      if isSpace c || isBreak c then do
        let (blanks, next) ← quotedBlanks cursor
        readQuotedFrom double fuel (blanks.reverse ++ found) next
      else if double then
        if c == '\x22' then .ok (found.reverse, cursor.step)
        else if c == '\x5c' then do
          let (meant, next) ← quotedEscape cursor.step
          readQuotedFrom double fuel (meant.reverse ++ found) next
        else readQuotedFrom double fuel (c :: found) cursor.step
      else if c == '\x27' then
        if cursor.seesChar 1 '\x27' then
          readQuotedFrom double fuel (c :: found) (cursor.forward 2)
        else .ok (found.reverse, cursor.step)
      else readQuotedFrom double fuel (c :: found) cursor.step

def readQuoted (cursor : Cursor) : Except Fault (List Char × Cursor) :=
  readQuotedFrom (cursor.seesChar 0 '\x22') (cursor.after.length + 1) [] cursor.step

/-! ### Plain scalars -/

def plainGoesOn (inFlow : Bool) (cursor : Cursor) (distance : Nat) : Bool :=
  match cursor.peek distance with
  | none => false
  | some c =>
    !(isSpace c || isBreak c
      || (c == ':' && cursor.endsOr (distance + 1) fun d =>
          isSpace d || isBreak d || (inFlow && [',', '[', ']', '\x7b', '\x7d'].contains d))
      || (inFlow && [',', '?', '[', ']', '\x7b', '\x7d'].contains c))

def plainLength (inFlow : Bool) (cursor : Cursor) : Nat → Nat → Nat
  | 0, distance => distance
  | fuel + 1, distance =>
    if plainGoesOn inFlow cursor distance then plainLength inFlow cursor fuel (distance + 1)
    else distance

/-- The line ends at a place with the spaces around them; nothing if a mark of a
    document follows. -/
def plainBreaks : Nat → Cursor → Option (List Char) × Cursor
  | 0, cursor => (some [], cursor)
  | fuel + 1, cursor =>
    if cursor.seesChar 0 ' ' then plainBreaks fuel cursor.step
    else
      match cursor.takeBreak? with
      | none => (some [], cursor)
      | some (c, next) =>
        if next.atDocumentMark then (none, next)
        else
          let (more, after) := plainBreaks fuel next
          (more.map (c :: ·), after)

/-- What stands between two parts of a plain scalar (nothing if it ends), the
    place after it, and whether a line ended there. -/
def plainBlanks (cursor : Cursor) : Option (List Char) × Cursor × Bool :=
  let blanks := cursor.run (· == ' ')
  let next := cursor.skip (· == ' ')
  match next.takeBreak? with
  | some (c, after) =>
    if after.atDocumentMark then (none, after, true)
    else
      let (others, ending) := plainBreaks after.after.length after
      (others.map (foldBreaks c), ending, true)
  | none => (if blanks.isEmpty then none else some blanks, next, false)

/-- A plain scalar after the characters found, with what separates them from the
    next part; a continuation line has to be indented by so many columns.  Gives
    also whether a line has ended after the last part. -/
def readPlainFrom (inFlow : Bool) (indent : Int) :
    Nat → List Char → List Char → Bool → Cursor → List Char × Cursor × Bool
  | 0, found, _, ended, cursor => (found, cursor, ended)
  | fuel + 1, found, separator, ended, cursor =>
    if cursor.seesChar 0 '#' then (found, cursor, ended)
    else
      let length := plainLength inFlow cursor cursor.after.length 0
      if length == 0 then (found, cursor, ended)
      else
        let found := found ++ separator ++ cursor.after.take length
        match plainBlanks (cursor.forward length) with
        | (none, next, ended) => (found, next, ended)
        | (some separator, next, ended) =>
          if next.seesChar 0 '#' || (!inFlow && decide ((next.column : Int) < indent)) then
            (found, next, ended)
          else readPlainFrom inFlow indent fuel found separator ended next

def readPlain (inFlow : Bool) (indent : Int) (cursor : Cursor) : List Char × Cursor × Bool :=
  readPlainFrom inFlow (indent + 1) (cursor.after.length + 1) [] [] false cursor

/-! ### Block scalars -/

/-- What happens to the line ends after the last line of a block scalar. -/
inductive Chomping where
  | strip
  | clip
  | keep
deriving DecidableEq, Repr

def chompingOf? : Option Char → Option Chomping
  | some '+' => some .keep
  | some '-' => some .strip
  | _ => none

/-- The indentation that a digit stands for; zero is none. -/
def incrementOf? (c : Option Char) : Except Fault (Option Nat) :=
  match c with
  | some d =>
    if d.isDigit then if d == '0' then .error .malformed else .ok (some (d.toNat - '0'.toNat))
    else .ok none
  | none => .ok none

def readBlockHeader (cursor : Cursor) : Except Fault (Chomping × Option Nat × Cursor) := do
  match chompingOf? (cursor.peek 0) with
  | some chomping =>
    let next := cursor.step
    match ← incrementOf? (next.peek 0) with
    | some increment => return (chomping, some increment, next.step)
    | none => return (chomping, none, next)
  | none =>
    match ← incrementOf? (cursor.peek 0) with
    | some increment =>
      let next := cursor.step
      match chompingOf? (next.peek 0) with
      | some chomping => return (chomping, some increment, next.step)
      | none => return (.clip, some increment, next)
    | none => return (.clip, none, cursor)

/-- The place after spaces, a comment and the end of a line, where nothing else may stand. -/
def skipRestOfLine (cursor : Cursor) : Except Fault Cursor :=
  let next := cursor.skip (· == ' ')
  let next := if next.seesChar 0 '#' then next.skip (!isBreak ·) else next
  if !next.lineEnds 0 then .error .malformed
  else
    match next.takeBreak? with
    | some (_, after) => .ok after
    | none => .ok next

/-- The empty lines at a place, the greatest column of their spaces, and the place after them. -/
def leadingBlankLines : Nat → Nat → Cursor → List Char × Nat × Cursor
  | 0, deepest, cursor => ([], deepest, cursor)
  | fuel + 1, deepest, cursor =>
    match cursor.takeBreak? with
    | some (c, next) =>
      let (more, deepest, after) := leadingBlankLines fuel deepest next
      (c :: more, deepest, after)
    | none =>
      if cursor.seesChar 0 ' ' then
        let next := cursor.step
        leadingBlankLines fuel (max deepest next.column) next
      else ([], deepest, cursor)

def skipIndent (indent : Nat) : Nat → Cursor → Cursor
  | 0, cursor => cursor
  | fuel + 1, cursor =>
    if cursor.column < indent && cursor.seesChar 0 ' ' then skipIndent indent fuel cursor.step
    else cursor

def blankLines (indent : Nat) : Nat → Cursor → List Char × Cursor
  | 0, cursor => ([], cursor)
  | fuel + 1, cursor =>
    let cursor := skipIndent indent indent cursor
    match cursor.takeBreak? with
    | some (c, next) =>
      let (more, after) := blankLines indent fuel next
      (c :: more, after)
    | none => ([], cursor)

/-- The lines of a block scalar after the text found, given the empty lines
    before the next line; gives the text, the end of its last line, and the empty
    lines after it. -/
def readBlockLines (folded : Bool) (indent : Nat) :
    Nat → List Char → List Char → Cursor → List Char × List Char × List Char × Cursor
  | 0, found, breaks, cursor => (found, [], breaks, cursor)
  | fuel + 1, found, breaks, cursor =>
    if cursor.column != indent || (cursor.peek 0).isNone then (found, [], breaks, cursor)
    else
      let startsWithSpace := cursor.sees 0 isSpace
      let line := cursor.run (!isBreak ·)
      let ending := cursor.skip (!isBreak ·)
      let found := found ++ breaks ++ line
      let (lineBreak, next) :=
        match ending.takeBreak? with
        | some (c, next) => ([c], next)
        | none => ([], ending)
      let (breaks, next) := blankLines indent (next.after.length + 1) next
      if next.column == indent && (next.peek 0).isSome then
        let joined :=
          if folded && lineBreak == ['\n'] && !startsWithSpace && !next.sees 0 isSpace then
            if breaks.isEmpty then [' '] else []
          else lineBreak
        readBlockLines folded indent fuel (found ++ joined) breaks next
      else (found, lineBreak, breaks, next)

def readBlock (outer : Int) (cursor : Cursor) : Except Fault (List Char × Cursor) := do
  let folded := cursor.seesChar 0 '>'
  let (chomping, increment, afterHeader) ← readBlockHeader cursor.step
  if !afterHeader.endsOr 0 (fun c => c == ' ' || isBreak c) then throw .malformed
  else
    let start ← skipRestOfLine afterHeader
    let least := (max (outer + 1) 1).toNat
    let (indent, breaks, first) :=
      match increment with
      | none =>
        let (breaks, deepest, first) := leadingBlankLines start.after.length 0 start
        (max least deepest, breaks, first)
      | some count =>
        let indent := least + count - 1
        let (breaks, first) := blankLines indent (start.after.length + 1) start
        (indent, breaks, first)
    let (text, lineBreak, trailing, ending) :=
      readBlockLines folded indent (first.after.length + 1) [] breaks first
    let content :=
      match chomping with
      | .strip => text
      | .clip => text ++ lineBreak
      | .keep => text ++ lineBreak ++ trailing
    return (content, ending)

end FieldRules.Yaml
