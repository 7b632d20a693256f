/-
  FieldRules/CommandLine/Markup.lean
  ==================================
  **Marked-up text, as it is shown.**

  Text for the screen is marked up: a tag is written in square brackets, begins
  with a small letter or one of the signs `#`, `/` and `@`, and asks for a colour or
  ends one.  Tags are not shown.  A bracket behind a backslash is shown itself, and
  the name of a picture between two colons is shown as that picture.

  Text from outside is escaped before it is put between tags.  What begins like a
  tag in one such text may still end in another one.
-/
import FieldRules.Text.Character
import FieldRules.Text.Emoji

namespace FieldRules.CommandLine.Markup

open FieldRules.Text

/-! ### Tags -/

def beginsTag (c : Char) : Bool := c.isLower || c == '#' || c == '/' || c == '@'

def tagInside? (text : List Char) : Option (List Char × List Char) :=
  match text with
  | [] => none
  | first :: more =>
    let inside := more.takeWhile fun c => c != ']' && c != '['
    match beginsTag first, more.dropWhile fun c => c != ']' && c != '[' with
    | true, ']' :: rest => some (first :: inside, rest)
    | _, _ => none

/-- A part of marked-up text. -/
inductive Piece where
  | text (chars : List Char)
  | tag (inside : List Char)
deriving DecidableEq, Repr

/-- A tag behind so many backslashes: half of them are shown, and after an odd
    number of them the tag is shown itself. -/
def tagPieces (backslashes : Nat) (inside : List Char) : List Piece :=
  let literal := List.replicate (backslashes / 2) '\x5c'
  .text literal ::
    (if backslashes % 2 == 1 then [.text ('[' :: inside ++ [']'])] else [.tag inside])

def piecesFrom : Nat → List Char → List Char → List Piece
  | 0, found, _ => [.text found.reverse]
  | fuel + 1, found, text =>
    let backslashes := text.takeWhile (· == '\x5c')
    match text.dropWhile (· == '\x5c') with
    | [] => [.text (backslashes ++ found).reverse]
    | '[' :: more =>
      match tagInside? more with
      | some (inside, rest) =>
        .text found.reverse :: tagPieces backslashes.length inside ++ piecesFrom fuel [] rest
      | none => piecesFrom fuel ('[' :: backslashes ++ found) more
    | c :: more => piecesFrom fuel (c :: backslashes ++ found) more

def pieces (text : List Char) : List Piece := piecesFrom (text.length + 1) [] text

/-! ### Text -/

def dropBracketEscapes : List Char → List Char
  | '\x5c' :: '[' :: rest => '[' :: dropBracketEscapes rest
  | c :: rest => c :: dropBracketEscapes rest
  | [] => []

def dropEnding? (ending text : List Char) : Option (List Char) :=
  if ending.isSuffixOf text then some (text.take (text.length - ending.length)) else none

/-- The picture that stands between colons, perhaps with a wish for how it is drawn. -/
def picture? (code : List Char) : Option (List Char) :=
  let (name, variant) :=
    match dropEnding? "-emoji".toList code, dropEnding? "-text".toList code with
    | some name, _ => (name, ['\ufe0f'])
    | none, some name => (name, ['\ufe0e'])
    | none, none => (code, [])
  (emoji? (String.ofList name)).map fun picture => picture.toList ++ variant

/-- The text with pictures for their names. -/
def drawFrom : Nat → List Char → List Char
  | 0, text => text
  | _ + 1, [] => []
  | fuel + 1, c :: rest =>
    if c != ':' then c :: drawFrom fuel rest
    else
      let code := rest.takeWhile fun d => d != ':' && !isBlank d
      match rest.dropWhile fun d => d != ':' && !isBlank d with
      | ':' :: more => (picture? code).getD (':' :: code ++ [':']) ++ drawFrom fuel more
      | _ => c :: drawFrom fuel rest

def draw (text : List Char) : List Char :=
  let plain := dropBracketEscapes text
  drawFrom plain.length plain

/-! ### What is shown -/

def tagName (inside : List Char) : List Char := inside.takeWhile (· != '=')

/-- The tags that are open behind a tag, or nothing if it ends what is not open. -/
def enter (opened : List (List Char)) (inside : List Char) : Option (List (List Char)) :=
  match tagName inside with
  | '/' :: rest =>
    let name := trim rest
    if name.isEmpty then (if opened.isEmpty then none else some opened.tail)
    else if opened.contains name then some (opened.erase name)
    else none
  | name => some (trim name :: opened)

/-- What is shown of parts, where some tags are open (latest first). -/
def shownFrom (opened : List (List Char)) : List Piece → Option (List Char)
  | [] => some []
  | .text chars :: rest => (shownFrom opened rest).map (draw chars ++ ·)
  | .tag inside :: rest =>
    match enter opened inside with
    | none => none
    | some opened => shownFrom opened rest

/-- What is shown of marked-up text, or nothing if it ends what is not open. -/
def shown? (markup : String) : Option String :=
  (shownFrom [] (pieces markup.toList)).map String.ofList

/-! ### Escaping -/

/-- Text in which all tags are escaped, behind the characters found (latest first). -/
def escapeFrom : Nat → List Char → List Char → List Char
  | 0, found, _ => found.reverse
  | fuel + 1, found, text =>
    let backslashes := text.takeWhile (· == '\x5c')
    match text.dropWhile (· == '\x5c') with
    | [] => (backslashes ++ found).reverse
    | '[' :: more =>
      match tagInside? more with
      | some (inside, rest) =>
        let doubled := backslashes ++ backslashes
        escapeFrom fuel (']' :: inside.reverse ++ '[' :: '\x5c' :: doubled ++ found) rest
      | none => escapeFrom fuel ('[' :: backslashes ++ found) more
    | c :: more => escapeFrom fuel (c :: backslashes ++ found) more

def escape (text : String) : String :=
  String.ofList (escapeFrom (text.toList.length + 1) [] text.toList)

def coloured (colour text : String) : String := "[" ++ colour ++ "]" ++ text ++ "[/" ++ colour ++ "]"

end FieldRules.CommandLine.Markup
