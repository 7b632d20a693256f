/-
  FieldRules/TypeText/Expression.lean
  ===================================
  **Reading the text of annotations.**

  An annotation names a type: by a name, by a quoted text that is an annotation
  itself, by a type with parameters in brackets, or by several types with bars
  between them.  It begins on the first line that holds more than a remark,
  which is not indented.  The text is cut into tokens first.  Between brackets
  line feeds count as blanks; outside of them they end the annotation.

  Annotations are expressions of a language of which this is a fragment: names of
  ASCII letters, quoted texts with the common escapes, decimal numbers, the absent
  value, truth values and the ellipsis, tuples and lists, parameters in brackets,
  names behind points, and bars, of no more than `maxTokens` tokens and `maxBrackets`
  brackets inside of one another.  A text that stops before it leaves the fragment,
  at a token that no expression goes on with, is malformed.  Of a text that leaves it
  nothing is said: it is `beyond`.
-/
import FieldRules.Number.Numeral
import FieldRules.Text.Identifier
import FieldRules.Text.Message

namespace FieldRules.TypeText

open FieldRules.Text

/-- Why a text is not read as an annotation. -/
inductive ReadFault where
  /-- It is not written as an expression. -/
  | malformed
  /-- It is outside of the fragment of annotations that is read. -/
  | beyond
deriving DecidableEq, Repr

/-- The greatest number of tokens of an annotation that is read. -/
def maxTokens : Nat := 1000

/-- How many brackets may stand inside of one another in an annotation that is read. -/
def maxBrackets : Nat := 90

inductive Token where
  | name (text : String)
  | text (content : String)
  | number (shown className : String)
  | ellipsis
  | mark (sign : Char)
deriving DecidableEq, Repr

/-- An annotation, before it is given a meaning. -/
inductive Expression where
  | name (text : String)
  | text (content : String)
  /-- A number or a constant of the language, by its printed form and class. -/
  | literal (shown className : String)
  /-- The absent value. -/
  | absent
  | tuple (items : List Expression)
  | list (items : List Expression)
  | subscript (base parameter : Expression)
  | member (base : Expression) (name : String)
  | bar (first second : Expression)
deriving Repr

/-! ### Tokens -/

/-- The words that are no names, apart from those that stand for a value. -/
def reservedWords : List String :=
  ["and", "as", "assert", "async", "await", "break", "class", "continue", "def", "del", "elif",
    "else", "except", "finally", "for", "from", "global", "if", "import", "in", "is", "lambda",
    "nonlocal", "not", "or", "pass", "raise", "return", "try", "while", "with", "yield"]

/-- The names of things that are there for those who type in programs. -/
def consoleNames : List String := ["copyright", "credits", "exit", "help", "license", "quit"]

/-- Whether a word is a name of which more is known than that it is one. -/
def isReadName (word : String) : Bool :=
  !reservedWords.contains word && !consoleNames.contains word && !"__".toList.isPrefixOf word.toList

/-- The words that say how the text that is quoted right behind them is to be read. -/
def quotePrefixes : List (List Char) :=
  [['b'], ['b', 'r'], ['r', 'b'], ['f'], ['f', 'r'], ['r', 'f']]

def isSpace (c : Char) : Bool := c == ' ' || c == '\t' || c == '\x0c'

def isQuote (c : Char) : Bool := c == '\x27' || c == '\x22'

def isWordStart (c : Char) : Bool := c.isAlpha || c == '_'

def isWordChar (c : Char) : Bool := c.isAlphanum || c == '_'

/-- The signs of the language, those for texts, remarks and groups in braces left out. -/
def isSign (c : Char) : Bool := "!$%&()*+,-./:;<=>?@[]^\x60|~".toList.contains c

def isBlankLine (line : List Char) : Bool :=
  match line.dropWhile isSpace with
  | [] => true
  | c :: _ => c == '#'

/-- Whether a line begins with blanks.  A form feed begins the line anew. -/
def isIndented (line : List Char) : Bool :=
  match (line.takeWhile isSpace).getLast? with
  | none => false
  | some c => c != '\x0c'

/-- Whether the last line of a text, which no line feed ends, is indented and holds nothing. -/
def isLoneIndent (line : List Char) : Bool := isIndented line && line.all isSpace

/-- What a backslash and a character stand for in a quoted text; escapes by code point
    or name are not read. -/
def unescape? (raw : Bool) (c : Char) : Option (List Char) :=
  if raw then some ['\x5c', c]
  else if isOctalDigit c || ['x', 'u', 'U', 'N'].contains c then none
  else match c with
    | '\n' => some []
    | 'n' => some ['\n']
    | 't' => some ['\t']
    | 'r' => some ['\r']
    | 'a' => some ['\x07']
    | 'b' => some ['\x08']
    | 'f' => some ['\x0c']
    | 'v' => some ['\x0b']
    | '\x5c' => some ['\x5c']
    | '\x27' => some ['\x27']
    | '\x22' => some ['\x22']
    | other => some ['\x5c', other]

def readQuoted (raw : Bool) (quote : Char) : List Char → Except ReadFault (List Char × List Char)
  | [] => .error .malformed
  | '\x5c' :: c :: rest => do
    let (body, after) ← readQuoted raw quote rest
    match unescape? raw c with
    | some chars => return (chars ++ body, after)
    | none => throw .beyond
  | c :: rest =>
    if c == quote then .ok ([], rest)
    else if c == '\n' || c == '\x5c' then .error .malformed
    else (readQuoted raw quote rest).map fun (body, after) => (c :: body, after)

/-- A quoted text behind its opening quote, of which there may not be three. -/
def readText (raw : Bool) (quote : Char) (rest : List Char) : Except ReadFault (Token × List Char) :=
  if [quote, quote].isPrefixOf rest then .error .beyond
  else (readQuoted raw quote rest).map fun (content, after) => (.text (String.ofList content), after)

def readNumber (text : List Char) : Option (Token × List Char) :=
  let isDigitPart (c : Char) := c.isDigit || c == '_'
  let whole := text.takeWhile isDigitPart
  let rest := text.dropWhile isDigitPart
  let isPoint := rest.head? == some '.'
  let fraction := if isPoint then (rest.drop 1).takeWhile isDigitPart else []
  let afterPoint := if isPoint then (rest.drop 1).dropWhile isDigitPart else rest
  let follows (after : List Char) := (after.head?.map isIdentifierChar).getD false
  if isPoint then
    if follows afterPoint then none
    else (Number.readFloat? (String.ofList (whole ++ '.' :: fraction))).map fun value =>
      (.number value.render "float", afterPoint)
  else if follows rest || (whole.head? == some '0' && whole.any (fun c => c != '0' && c != '_')) then
    none
  else match Number.readInteger (String.ofList whole) with
    | .ok value => some (.number (toString value) "int", rest)
    | .error _ => none

/-- A word at the head of a text, with the text that is quoted behind it if it says how. -/
def readWord (text : List Char) : Except ReadFault (Token × List Char) :=
  let word := text.takeWhile isWordChar
  let after := text.dropWhile isWordChar
  let name : Except ReadFault (Token × List Char) :=
    if isReadName (String.ofList word) then .ok (.name (String.ofList word), after)
    else .error .beyond
  match after with
  | [] => name
  | c :: rest =>
    if !isQuote c then if c.toNat < 0x80 then name else .error .beyond
    else if quotePrefixes.contains (word.map Char.toLower) then .error .beyond
    else if word == ['r'] || word == ['R'] then readText true c rest
    else if word == ['u'] || word == ['U'] then readText false c rest
    else name

/-- The token at the head of a text, where nothing is skipped any more, and what follows it. -/
def readToken : List Char → Except ReadFault (Token × List Char)
  | [] => .error .malformed
  | '.' :: '.' :: '.' :: rest => .ok (.ellipsis, rest)
  | c :: rest =>
    if isQuote c then readText false c rest
    else if isWordStart c then readWord (c :: rest)
    else if c.isDigit then
      match readNumber (c :: rest) with
      | some read => .ok read
      | none => .error .beyond
    else if c == '.' && rest.head?.any Char.isDigit then .error .beyond
    else if isSign c then .ok (.mark c, rest)
    else .error .beyond

def Token.depthAfter (depth : Nat) : Token → Nat
  | mark sign =>
    if sign == '(' || sign == '[' then depth + 1
    else if sign == ')' || sign == ']' then depth - 1
    else depth
  | _ => depth

def tokensFrom : Nat → Nat → List Char → Except ReadFault (List Token)
  | _, 0, _ => .error .beyond
  | _, _, [] => .ok []
  | depth, fuel + 1, c :: rest =>
    if isSpace c then tokensFrom depth fuel rest
    else if c == '#' then tokensFrom depth fuel (rest.dropWhile (· != '\n'))
    else if c == '\n' then
      if depth != 0 then tokensFrom depth fuel rest
      else
        let lines := rest.splitOn '\n'
        if !lines.all isBlankLine then
          .error (if rest.contains '\x5c' then .beyond else .malformed)
        else if lines.getLast?.any isLoneIndent then .error .malformed
        else .ok []
    else do
      let (token, after) ← readToken (c :: rest)
      let inside := token.depthAfter depth
      if maxBrackets < inside then throw .beyond
      return token :: (← tokensFrom inside fuel after)

def tokens (text : List Char) : Except ReadFault (List Token) := do
  let found ← tokensFrom 0 (text.length + 1) text
  if maxTokens < found.length then throw .beyond else return found

/-! ### Expressions -/

def takeTexts : List Token → String × List Token
  | .text content :: rest =>
    let (more, after) := takeTexts rest
    (content ++ more, after)
  | rest => ("", rest)

def endsBefore (sign : Char) : Bool := [')', ']', ',', '|', '.'].contains sign

/-- Whether an expression that is read goes on behind a sign, or ends before it. -/
def isReadBehind (sign : Char) : Bool := [')', ']', ',', '|'].contains sign

mutual

def readExpression : Nat → List Token → Except ReadFault (Expression × List Token)
  | 0, _ => .error .beyond
  | fuel + 1, tokens => do
    let (first, rest) ← readPart fuel tokens
    readBars fuel first rest

def readBars : Nat → Expression → List Token → Except ReadFault (Expression × List Token)
  | 0, _, _ => .error .beyond
  | fuel + 1, first, tokens =>
    match tokens with
    | .mark '|' :: rest => do
      let (second, after) ← readPart fuel rest
      readBars fuel (.bar first second) after
    | _ => .ok (first, tokens)

def readPart : Nat → List Token → Except ReadFault (Expression × List Token)
  | 0, _ => .error .beyond
  | fuel + 1, tokens =>
    match tokens with
    | [] => .error .malformed
    | .name "None" :: rest => readTrailers fuel .absent rest
    | .name "True" :: rest => readTrailers fuel (.literal "True" "bool") rest
    | .name "False" :: rest => readTrailers fuel (.literal "False" "bool") rest
    | .name text :: rest => readTrailers fuel (.name text) rest
    | .text content :: rest =>
      let (more, after) := takeTexts rest
      readTrailers fuel (.text (content ++ more)) after
    | .number shown className :: rest => readTrailers fuel (.literal shown className) rest
    | .ellipsis :: rest => readTrailers fuel (.literal "Ellipsis" "ellipsis") rest
    -- the sign applies to all that is written behind the number
    | .mark '-' :: .number _ _ :: .mark '[' :: _ => .error .beyond
    | .mark '-' :: .number _ _ :: .mark '.' :: _ => .error .beyond
    | .mark '-' :: .number shown className :: rest =>
      readTrailers fuel (.literal (if shown == "0" then shown else "-" ++ shown) className) rest
    | .mark '(' :: .mark ')' :: rest => readTrailers fuel (.tuple []) rest
    | .mark '(' :: rest => do
      match ← readItems fuel ')' rest with
      | ([only], false, after) => readTrailers fuel only after
      | (several, _, after) => readTrailers fuel (.tuple several) after
    | .mark '[' :: .mark ']' :: rest => readTrailers fuel (.list []) rest
    | .mark '[' :: rest => do
      let (items, _, after) ← readItems fuel ']' rest
      readTrailers fuel (.list items) after
    | .mark sign :: _ => .error (if endsBefore sign then .malformed else .beyond)

def readTrailers : Nat → Expression → List Token → Except ReadFault (Expression × List Token)
  | 0, _, _ => .error .beyond
  | fuel + 1, base, tokens =>
    match tokens with
    | [] => .ok (base, [])
    | .mark '.' :: .name text :: rest =>
      if text == "None" || text == "True" || text == "False" then .error .malformed
      else readTrailers fuel (.member base text) rest
    | .mark '.' :: _ => .error .malformed
    | .mark '[' :: rest => do
      match ← readItems fuel ']' rest with
      | ([only], false, after) => readTrailers fuel (.subscript base only) after
      | (several, _, after) => readTrailers fuel (.subscript base (.tuple several)) after
    | .mark sign :: _ => if isReadBehind sign then .ok (base, tokens) else .error .beyond
    | _ => .error .malformed

/-- Expressions with commas between them, up to a closing mark, and whether there is a comma. -/
def readItems : Nat → Char → List Token → Except ReadFault (List Expression × Bool × List Token)
  | 0, _, _ => .error .beyond
  | fuel + 1, close, tokens => do
    let (item, rest) ← readExpression fuel tokens
    match rest with
    | .mark ',' :: .mark sign :: after =>
      if sign == close then return ([item], true, after)
      else
        let (items, _, last) ← readItems fuel close (.mark sign :: after)
        return (item :: items, true, last)
    | .mark ',' :: after =>
      let (items, _, last) ← readItems fuel close after
      return (item :: items, true, last)
    | .mark sign :: after => if sign == close then return ([item], false, after) else throw .malformed
    | _ => throw .malformed

def readRest : Nat → List Token → Except ReadFault (List Expression)
  | 0, _ => .error .beyond
  | fuel + 1, tokens => do
    match tokens with
    | [] => return []
    | _ =>
      match ← readExpression fuel tokens with
      | (item, []) => return [item]
      | (item, .mark ',' :: rest) => return item :: (← readRest fuel rest)
      | _ => throw .malformed

end

def readAll (tokens : List Token) : Except ReadFault Expression := do
  let fuel := 6 * tokens.length + 8
  match ← readExpression fuel tokens with
  | (expression, []) => return expression
  | (first, .mark ',' :: rest) => return .tuple (first :: (← readRest fuel rest))
  | _ => throw .malformed

def parse (text : List Char) : Except ReadFault Expression :=
  if text.contains '\x00' then .error .beyond
  else match ((unifyLineEnds text).splitOn '\n').dropWhile isBlankLine with
    | [] => .error .malformed
    | first :: rest => do
      let found ← tokens (['\n'].intercalate (first :: rest))
      if isIndented first then throw .malformed else readAll found

end FieldRules.TypeText
