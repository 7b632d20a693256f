/-
  FieldRules/Yaml/Lexer.lean
  ==========================
  **From the characters of a YAML document to its tokens.**

  Indentation becomes tokens: a block collection begins where an entry or a key
  is indented more than the collection around it, and ends where the
  indentation goes back.

  A key may be written without an indicator if a colon follows it on the same
  line.  The lexer therefore remembers, for each flow level, the last token that
  could begin such a key, and puts the tokens of a key in front of it when it
  meets the colon.  Such a token may lie at most 1024 characters back; where
  nothing but a key can stand, a missing colon is a fault.
-/
import FieldRules.Text.Utf8
import FieldRules.Yaml.Scalars

namespace FieldRules.Yaml

open FieldRules.Text

/-! ### The state of a lexer -/

/-- A token that may turn out to begin a key: how many tokens are before it,
    whether nothing but a key can stand there, and where it begins. -/
structure KeyCandidate where
  number : Nat
  required : Bool
  place : Cursor

/-- What a lexer knows: the place it has reached, the tokens found (latest
    first), the number of flow collections around, the column of the block
    collection around and of those around it, whether a key may begin here
    without an indicator, and the candidates for keys by flow level. -/
structure Lexing where
  place : Cursor
  found : List Token := []
  flowLevel : Nat := 0
  indent : Int := -1
  outerIndents : List Int := []
  allowKey : Bool := true
  candidates : List (Nat × KeyCandidate) := []

abbrev LexStep := StateT Lexing (Except Fault)

def here : LexStep Cursor := return (← get).place

def moveTo (place : Cursor) : LexStep Unit := modify fun s => { s with place := place }

def emit (token : Token) : LexStep Unit := modify fun s => { s with found := token :: s.found }

def setAllowKey (allowed : Bool) : LexStep Unit := modify fun s => { s with allowKey := allowed }

/-! ### Keys and indentation -/

/-- Drops the candidates that are on an earlier line or too far back. -/
def dropStaleCandidates : LexStep Unit := do
  let s ← get
  let isStale (candidate : KeyCandidate) : Bool :=
    candidate.place.line != s.place.line || decide (1024 < s.place.index - candidate.place.index)
  if s.candidates.any fun (_, candidate) => isStale candidate && candidate.required then
    throw .malformed
  else set { s with candidates := s.candidates.filter fun (_, candidate) => !isStale candidate }

/-- Drops the candidate of the flow level, which may not be one that has to be a key. -/
def dropCandidate : LexStep Unit := do
  let s ← get
  match s.candidates.lookup s.flowLevel with
  | some candidate =>
    if candidate.required then throw .malformed
    else set { s with candidates := s.candidates.filter (·.1 != s.flowLevel) }
  | none => return ()

def noteCandidate : LexStep Unit := do
  let s ← get
  if s.allowKey then
    dropCandidate
    let required := s.flowLevel == 0 && s.indent == (s.place.column : Int)
    let candidate : KeyCandidate :=
      { number := s.found.length, required := required, place := s.place }
    modify fun s => { s with candidates := (s.flowLevel, candidate) :: s.candidates }
  else return ()

def unwindTo (column : Int) : LexStep Unit := do
  let s ← get
  if s.flowLevel != 0 then return ()
  else
    let ended := (s.indent :: s.outerIndents).takeWhile fun indent => decide (column < indent)
    let left := (s.indent :: s.outerIndents).dropWhile fun indent => decide (column < indent)
    set { s with
      found := ended.map (fun _ => Token.blockEnd) ++ s.found
      indent := left.headD (-1)
      outerIndents := left.drop 1 }

/-- Enters a block collection at a column, if it is indented more than the one around. -/
def enterIndent (column : Nat) : LexStep Bool := do
  let s ← get
  if s.indent < (column : Int) then
    set { s with outerIndents := s.indent :: s.outerIndents, indent := column }
    return true
  else return false

/-! ### Blanks between tokens -/

/-- Moves to the next token: over spaces, comments and line ends.  Outside of
    flow collections a key may begin after a line end. -/
def skipToToken : Nat → LexStep Unit
  | 0 => return ()
  | fuel + 1 => do
    let place := (← here).skip (· == ' ')
    let place := if place.seesChar 0 '#' then place.skip (!isBreak ·) else place
    match place.takeBreak? with
    | some (_, next) =>
      moveTo next
      modify fun s => if s.flowLevel == 0 then { s with allowKey := true } else s
      skipToToken fuel
    | none => moveTo place

/-! ### Directives -/

def readNumber (cursor : Cursor) : Except Fault (Nat × Cursor) :=
  let digits := cursor.run Char.isDigit
  if digits.isEmpty then .error .malformed
  else .ok (Number.ofDecimalChars digits, cursor.skip Char.isDigit)

/-- A handle of tags at a place: one mark, or a name between two. -/
def readHandle (cursor : Cursor) : Except Fault (List Char × Cursor) :=
  if !cursor.seesChar 0 '!' then .error .malformed
  else if cursor.seesChar 1 ' ' then .ok (['!'], cursor.step)
  else
    let name := cursor.step.run isWordChar
    if cursor.seesChar (name.length + 1) '!' then
      .ok ('!' :: name ++ ['!'], cursor.forward (name.length + 2))
    else if name.isEmpty then .error .malformed
    else .error .malformed

def isUriChar (c : Char) : Bool := c.isAlphanum || "-;/?:@&=+$,_.!~*'()[]%".toList.contains c

/-- The bytes of a run of escapes in the name of a tag. -/
def uriBytes : Nat → Cursor → Except Fault (List Nat × Cursor)
  | 0, cursor => .ok ([], cursor)
  | fuel + 1, cursor =>
    if cursor.seesChar 0 '%' then
      let digits := (cursor.step.after.take 2).filterMap hexValue?
      if digits.length != 2 then .error .malformed
      else
        (uriBytes fuel (cursor.forward 3)).map fun (more, after) =>
          (Number.ofDigits 16 digits :: more, after)
    else .ok ([], cursor)

def readUriFrom : Nat → List Char → Cursor → Except Fault (List Char × Cursor)
  | 0, found, cursor => .ok (found, cursor)
  | fuel + 1, found, cursor =>
    if cursor.seesChar 0 '%' then do
      let (bytes, next) ← uriBytes cursor.after.length cursor
      match Utf8.decode bytes with
      | .ok chars => readUriFrom fuel (found ++ chars) next
      | .error _ => throw .malformed
    else
      match cursor.peek 0 with
      | some c =>
        if isUriChar c then readUriFrom fuel (found ++ [c]) cursor.step else .ok (found, cursor)
      | none => .ok (found, cursor)

def readUri (cursor : Cursor) : Except Fault (List Char × Cursor) := do
  let (uri, next) ← readUriFrom (cursor.after.length + 1) [] cursor
  if next.index == cursor.index then throw .malformed else return (uri, next)

def spaceOrLineEnds (cursor : Cursor) : Bool := cursor.endsOr 0 fun c => c == ' ' || isBreak c

def readDirectiveContent (name : List Char) (cursor : Cursor) :
    Except Fault (Directive × Cursor) := do
  let start := cursor.skip (· == ' ')
  if name == "YAML".toList then
    let (major, afterMajor) ← readNumber start
    if !afterMajor.seesChar 0 '.' then throw .malformed
    else
      let (minor, next) ← readNumber afterMajor.step
      if spaceOrLineEnds next then return (.version major minor, next) else throw .malformed
  else if name == "TAG".toList then
    let (handle, afterHandle) ← readHandle start
    if !afterHandle.seesChar 0 ' ' then throw .malformed
    else
      let (uri, next) ← readUri (afterHandle.skip (· == ' '))
      if spaceOrLineEnds next then
        return (.tagHandle (String.ofList handle) (String.ofList uri), next)
      else throw .malformed
  else return (.reserved, cursor.skip (!isBreak ·))

def readDirective (cursor : Cursor) : Except Fault (Directive × Cursor) := do
  let name := cursor.step.run isWordChar
  let afterName := cursor.step.skip isWordChar
  if name.isEmpty || !spaceOrLineEnds afterName then throw .malformed
  else
    let (content, next) ← readDirectiveContent name afterName
    return (content, ← skipRestOfLine next)

/-! ### Anchors and tags -/

def anchorEnds (cursor : Cursor) : Bool :=
  cursor.endsOr 0 fun c => isSpace c || isBreak c || "?:,]\x7d%@\x60".toList.contains c

def readAnchor (cursor : Cursor) : Except Fault (String × Cursor) :=
  let name := cursor.step.run isWordChar
  let next := cursor.step.skip isWordChar
  if name.isEmpty || !anchorEnds next then .error .malformed
  else .ok (String.ofList name, next)

/-- Whether a tag is written with a handle of its own: another mark comes before its end. -/
def hasHandle (cursor : Cursor) : Bool :=
  let word := cursor.step.run fun c => !(c == ' ' || isBreak c)
  word.contains '!'

def readTag (cursor : Cursor) : Except Fault (Token × Cursor) := do
  let (token, next) ←
    if cursor.seesChar 1 '<' then
      let (uri, next) ← readUri (cursor.forward 2)
      if next.seesChar 0 '>' then pure (Token.tag none (String.ofList uri), next.step)
      else throw .malformed
    else if cursor.wordEnds 1 then pure (Token.tag none "!", cursor.step)
    else
      let (handle, afterHandle) ←
        if hasHandle cursor then readHandle cursor else pure (['!'], cursor.step)
      let (uri, next) ← readUri afterHandle
      pure (Token.tag (some (String.ofList handle)) (String.ofList uri), next)
  if spaceOrLineEnds next then return (token, next) else throw .malformed

/-! ### Tokens -/

def lexStreamEnd : LexStep Unit := do
  unwindTo (-1)
  dropCandidate
  emit .streamEnd

def lexDirective : LexStep Unit := do
  unwindTo (-1)
  dropCandidate
  setAllowKey false
  let (content, next) ← readDirective (← here)
  emit (.directive content)
  moveTo next

def lexDocumentMark (token : Token) : LexStep Unit := do
  unwindTo (-1)
  dropCandidate
  setAllowKey false
  emit token
  moveTo ((← here).forward 3)

def lexFlowStart (token : Token) : LexStep Unit := do
  noteCandidate
  modify fun s => { s with flowLevel := s.flowLevel + 1, allowKey := true }
  emit token
  moveTo (← here).step

def lexFlowEnd (token : Token) : LexStep Unit := do
  dropCandidate
  if (← get).flowLevel == 0 then throw .malformed
  else
    modify fun s => { s with flowLevel := s.flowLevel - 1, allowKey := false }
    emit token
    moveTo (← here).step

def lexFlowEntry : LexStep Unit := do
  setAllowKey true
  dropCandidate
  emit .flowEntry
  moveTo (← here).step

/-- Enters a block collection at the place, if a key or entry may stand here. -/
def enterBlock (start : Token) : LexStep Unit := do
  let s ← get
  if s.flowLevel != 0 then return ()
  else if !s.allowKey then throw .malformed
  else
    let entered ← enterIndent s.place.column
    if entered then emit start else return ()

def lexBlockEntry : LexStep Unit := do
  enterBlock .blockSequenceStart
  setAllowKey true
  dropCandidate
  emit .blockEntry
  moveTo (← here).step

def lexKey : LexStep Unit := do
  enterBlock .blockMappingStart
  modify fun s => { s with allowKey := s.flowLevel == 0 }
  dropCandidate
  emit .key
  moveTo (← here).step

/-- Takes the colon before a value.  If a token on the line can begin the key,
    the tokens of a key go in front of it. -/
def lexValue : LexStep Unit := do
  let s ← get
  match s.candidates.lookup s.flowLevel with
  | some candidate =>
    let entered ←
      if s.flowLevel == 0 then enterIndent candidate.place.column else pure false
    modify fun now =>
      let behind := now.found.length - candidate.number
      let start := if entered then [Token.key, Token.blockMappingStart] else [Token.key]
      { now with
        found := now.found.take behind ++ start ++ now.found.drop behind
        candidates := now.candidates.filter (·.1 != s.flowLevel)
        allowKey := false }
  | none =>
    enterBlock .blockMappingStart
    modify fun now => { now with allowKey := now.flowLevel == 0 }
    dropCandidate
  emit .value
  moveTo (← here).step

/-- Takes a token that may begin a key and after which none may begin. -/
def lexWord (read : Cursor → Except Fault (Token × Cursor)) : LexStep Unit := do
  noteCandidate
  setAllowKey false
  let (token, next) ← read (← here)
  emit token
  moveTo next

def lexBlockScalar : LexStep Unit := do
  setAllowKey true
  dropCandidate
  let (content, next) ← readBlock (← get).indent (← here)
  emit (.scalar (String.ofList content) false)
  moveTo next

/-- Takes a plain scalar; after a line end a key may begin. -/
def lexPlain : LexStep Unit := do
  noteCandidate
  let s ← get
  let (content, next, ended) := readPlain (s.flowLevel != 0) s.indent s.place
  setAllowKey ended
  emit (.scalar (String.ofList content) true)
  moveTo next

def plainBegins (inFlow : Bool) (cursor : Cursor) : Bool :=
  match cursor.peek 0 with
  | none => false
  | some c =>
    !(isSpace c || isBreak c || "-?:,[]\x7b\x7d#&*!|>'\"%@\x60".toList.contains c)
      || (!cursor.wordEnds 1 && (c == '-' || (!inFlow && (c == '?' || c == ':'))))

/-- Takes the next token, or the end of the stream; gives whether there is more. -/
def lexToken : LexStep Bool := do
  skipToToken ((← here).after.length + 1)
  dropStaleCandidates
  unwindTo (← here).column
  let s ← get
  let cursor := s.place
  let inFlow := s.flowLevel != 0
  let quotedToken (cursor : Cursor) : Except Fault (Token × Cursor) :=
    (readQuoted cursor).map fun (content, next) => (.scalar (String.ofList content) false, next)
  match cursor.peek 0 with
  | none =>
    lexStreamEnd
    return false
  | some c =>
    if c == '%' && cursor.column == 0 then lexDirective
    else if cursor.column == 0 && cursor.marks ['-', '-', '-'] then lexDocumentMark .documentStart
    else if cursor.column == 0 && cursor.marks ['.', '.', '.'] then lexDocumentMark .documentEnd
    else if c == '[' then lexFlowStart .flowSequenceStart
    else if c == '\x7b' then lexFlowStart .flowMappingStart
    else if c == ']' then lexFlowEnd .flowSequenceEnd
    else if c == '\x7d' then lexFlowEnd .flowMappingEnd
    else if c == ',' then lexFlowEntry
    else if c == '-' && cursor.wordEnds 1 then lexBlockEntry
    else if c == '?' && (inFlow || cursor.wordEnds 1) then lexKey
    else if c == ':' && (inFlow || cursor.wordEnds 1) then lexValue
    else if c == '*' then
      lexWord fun cursor => (readAnchor cursor).map fun (name, next) => (.alias name, next)
    else if c == '&' then
      lexWord fun cursor => (readAnchor cursor).map fun (name, next) => (.anchor name, next)
    else if c == '!' then lexWord readTag
    else if (c == '|' || c == '>') && !inFlow then lexBlockScalar
    else if c == '\x27' || c == '\x22' then lexWord quotedToken
    else if plainBegins inFlow cursor then lexPlain
    else throw .malformed
    return true

/-- Takes tokens up to the end of the stream or to a fault, which is given with
    the tokens before it (latest first). -/
def lexAll : Nat → Lexing → List Token × Option Fault
  | 0, lexing => (lexing.found, some .malformed)
  | fuel + 1, lexing =>
    match lexToken.run lexing with
    | .error fault => (lexing.found, some fault)
    | .ok (true, next) => lexAll fuel next
    | .ok (false, next) => (next.found, none)

def tokens (text : List Char) : List Token × Option Fault :=
  if !text.all admittedRanges.covers then ([], some .malformed)
  else
    let start : Cursor := { after := text }
    let start := if start.seesChar 0 '\ufeff' then start.step else start
    let (found, fault) := lexAll (2 * text.length + 2) { place := start }
    (found.reverse, fault)

end FieldRules.Yaml
