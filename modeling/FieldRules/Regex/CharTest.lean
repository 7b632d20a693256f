/-
  FieldRules/Regex/CharTest.lean
  ==============================
  **Tests of a single character, the atoms of a pattern.**

  A test lists characters, ranges of characters and categories, and says
  whether it asks for a listed character or for any other.  Without regard to
  case, an entry admits a character when it holds some form of the same letter.

  Beyond the basic plane, which ends at U+FFFF, forms are looked up less
  thoroughly.  A character that is listed among other entries is held against
  the lower form of the character in the text, so that it has to be that lower
  form itself.  A range that reaches beyond the plane holds a letter also if its
  upper form begins in the range.
-/
import FieldRules.Text.Character
import FieldRules.Text.Case
import FieldRules.Text.Word

namespace FieldRules.Regex

open FieldRules.Text

inductive Category where
  | digit
  | blank
  | word
deriving DecidableEq, Repr

/-- Whether a character is of a category, of any script or among the ASCII
    characters only. -/
def Category.admits (category : Category) (asciiOnly : Bool) (c : Char) : Bool :=
  match category with
  | .digit => if asciiOnly then c.isDigit else isDecimalDigit c
  | .blank =>
    if asciiOnly then c == ' ' || (decide (0x09 ≤ c.toNat) && decide (c.toNat ≤ 0x0d)) else isBlank c
  | .word => if asciiOnly then isAsciiWord c else isWord c

/-- How a test compares letters. -/
inductive CaseRule where
  /-- As they are. -/
  | exact
  /-- Without regard to the case of ASCII letters. -/
  | ignoreAscii
  /-- Without regard to case. -/
  | ignore
deriving DecidableEq, Repr

def CaseRule.variants : CaseRule → Nat → List Nat
  | exact, point => [point]
  | ignoreAscii, point => asciiCaseVariants point
  | ignore, point => caseVariants point

def CaseRule.lower : CaseRule → Nat → Nat
  | exact, point => point
  | ignoreAscii, point => asciiLowerPoint point
  | ignore, point => lowerPoint point

def basicPlaneEnd : Nat := 0xffff

inductive SetItem where
  | character (point : Nat)
  /-- The characters of which this is the lower form. -/
  | lowered (point : Nat)
  | range (first last : Nat)
  | category (kind : Category) (asciiOnly negated : Bool)
deriving DecidableEq, Repr

def SetItem.admits (item : SetItem) (cases : CaseRule) (c : Char) : Bool :=
  match item with
  | .character point => (cases.variants c.toNat).contains point
  | .lowered point => cases.lower c.toNat == point
  | .range first last =>
    let holds (point : Nat) : Bool := decide (first ≤ point) && decide (point ≤ last)
    (cases.variants c.toNat).any holds ||
      (cases != .exact && decide (basicPlaneEnd < last) &&
        holds (upperPoint (cases.lower c.toNat)))
  | .category kind asciiOnly negated => kind.admits asciiOnly c != negated

def SetItem.amongOthers : SetItem → SetItem
  | character point => if basicPlaneEnd < point then lowered point else character point
  | other => other

/-- The entries of a set: each once, and with regard to whether it stands alone. -/
def SetItem.listed (items : List SetItem) : List SetItem :=
  match items.eraseDups with
  | [item] => [item]
  | items => items.map amongOthers

/-- A test: the entries of a set, and whether the set is asked for or excluded. -/
structure CharTest where
  items : List SetItem
  negated : Bool := false
  cases : CaseRule := .exact
deriving DecidableEq, Repr

def CharTest.admits (test : CharTest) (c : Char) : Bool :=
  test.items.any (fun item => item.admits test.cases c) != test.negated

def CharTest.single (point : Nat) (cases : CaseRule) : CharTest :=
  { items := [.character point], cases := cases }

end FieldRules.Regex
