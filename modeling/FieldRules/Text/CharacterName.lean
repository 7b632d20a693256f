/-
  FieldRules/Text/CharacterName.lean
  ==================================
  **Characters by name.**

  The name of a Hangul syllable is put together from those of its letters, and the
  names of ideographs and of some other characters end in their code points.  All
  other names are listed, each by what sets it apart from the one before it.  Names
  of the first two kinds are read as they are written; in all others, the case of
  letters makes no difference.
-/
import FieldRules.Text.Character
import FieldRules.Text.CharacterNameTable

namespace FieldRules.Text

/-! ### Hangul syllables -/

def leadNames : List String :=
  ["G", "GG", "N", "D", "DD", "R", "M", "B", "BB", "S", "SS", "", "J", "JJ", "C", "K", "T", "P", "H"]

def vowelNames : List String :=
  ["A", "AE", "YA", "YAE", "EO", "E", "YEO", "YE", "O", "WA", "WAE", "OE", "YO", "U", "WEO", "WE",
    "WI", "YU", "EU", "YI", "I"]

def tailNames : List String :=
  ["", "G", "GG", "GS", "N", "NJ", "NH", "D", "L", "LG", "LM", "LB", "LS", "LT", "LP", "LH", "M", "B",
    "BS", "S", "SS", "NG", "J", "C", "K", "T", "P", "H"]

/-- The longest of some texts that a text begins with: its place, and what follows it. -/
def takeLongest (options : List String) (text : List Char) : Option (Nat × List Char) :=
  let fitting := options.zipIdx.filter (·.1.toList.isPrefixOf text)
  let longest := fitting.foldl (fun best option =>
    if best.any (option.1.length ≤ ·.1.length) then best else some option) none
  longest.map fun (option, place) => (place, text.drop option.length)

/-- The syllable with a name, of which the first words are taken off. -/
def syllablePoint? (name : List Char) : Option Nat := do
  let (lead, afterLead) ← takeLongest leadNames name
  let (vowel, afterVowel) ← takeLongest vowelNames afterLead
  let (tail, afterTail) ← takeLongest tailNames afterVowel
  if afterTail.isEmpty then
    some (0xac00 + (lead * vowelNames.length + vowel) * tailNames.length + tail)
  else none

/-! ### Names that end in code points -/

def ideographRanges : Ranges :=
  [(0x3400, 0x4dbf), (0x4e00, 0x9fff), (0x20000, 0x2a6df), (0x2a700, 0x2b738), (0x2b740, 0x2b81d),
   (0x2b820, 0x2cea1), (0x2ceb0, 0x2ebe0), (0x30000, 0x3134a)]

def pointOf (digits : List Char) : Nat :=
  digits.foldl (fun value c => value * 16 + (hexValue? c).getD 0) 0

/-- The ideograph with some digits, of which there are four or five. -/
def ideographPoint? (digits : List Char) : Option Nat :=
  let wellFormed := digits.all fun c => isHexDigit c && !c.isLower
  if wellFormed && (digits.length == 4 || digits.length == 5) &&
      ideographRanges.coversPoint (pointOf digits) then some (pointOf digits)
  else none

/-- What else is named by a word and a code point. -/
def numberedNames : List (String × Ranges) :=
  [("CJK COMPATIBILITY IDEOGRAPH-", [(0xf900, 0xfa6d), (0xfa70, 0xfad9), (0x2f800, 0x2fa1d)]),
   ("NUSHU CHARACTER-", [(0x1b170, 0x1b2fb)]),
   ("KHITAN SMALL SCRIPT CHARACTER-", [(0x18b00, 0x18cd5)])]

/-- What follows a text in a longer one. -/
def behind? (start : String) (text : List Char) : Option (List Char) :=
  if start.toList.isPrefixOf text then some (text.drop start.length) else none

/-- The character with a name in capital letters that ends in its code point. -/
def numberedPoint? (name : List Char) : Option Nat :=
  numberedNames.findSome? fun (start, ranges) => do
    let digits ← behind? start name
    let point := pointOf digits
    if ranges.coversPoint point && (Nat.toDigits 16 point).map Char.toUpper == digits then some point
    else none

/-! ### Listed names -/

/-- The words of a name in the list, given those of the name before it. -/
def nextName (before : List String) (entry : String) : List String :=
  match entry.toList with
  | [] => []
  | first :: others =>
    let (own, last) := others.span (· != '+')
    let words := if own.isEmpty then [] else (own.splitOn '_').map String.ofList
    before.take (pointOf [first]) ++ words ++ before.drop (before.length - pointOf (last.drop 1))

/-- The code point at which a name stands in a list, of which the next entry is for a given
    code point, if it is a name, and stands behind a given name. -/
def listedPoint? (name : List String) : Nat → List String → List String → Option Nat
  | _, _, [] => none
  | point, before, entry :: rest =>
    match entry.toList with
    | '@' :: digits => listedPoint? name (pointOf digits) before rest
    | _ =>
      let next := nextName before entry
      if next == name then some point else listedPoint? name (point + 1) next rest

def namedPoint? (name : List Char) : Option Nat :=
  match behind? "HANGUL SYLLABLE " name, behind? "CJK UNIFIED IDEOGRAPH-" name with
  | some syllable, _ => syllablePoint? syllable
  | _, some digits => ideographPoint? digits
  | none, none =>
    let capitals := name.map Char.toUpper
    (numberedPoint? capitals).or <|
      listedPoint? ((capitals.splitOn ' ').map String.ofList) 0 []
        (characterNameTable.split Char.isWhitespace).toStringList

end FieldRules.Text
