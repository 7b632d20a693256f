/-
  FieldRules/Text/Character.lean
  ==============================
  **Kinds of characters: blanks and digits.**

  The character properties that the rule language, the patterns and the printed
  forms rest on (blank, printable, alphanumeric, …) are finite unions of intervals
  of code points.  A property is written down once as a list of closed intervals,
  and `Ranges.covers` is the only way to ask it.

  A character is blank when Unicode gives it the bidirectional class of white space
  or of a separator, or the general category of a space.  One notion serves the
  whole library: separators between arguments, the room around a rule, the
  emptiness test, and the class `\s` of patterns.  The ten decimal digits of a
  script have neighbouring code points, zero first, so the value of a digit is its
  distance from the start of its run.
-/
namespace FieldRules.Text

/-! ### Ranges of code points -/

/-- A set of code points, as a list of closed intervals `(first, last)`. -/
abbrev Ranges := List (Nat × Nat)

/-- Whether the code point lies in one of the intervals. -/
def Ranges.coversPoint (ranges : Ranges) (point : Nat) : Bool :=
  ranges.any fun range => decide (range.1 ≤ point) && decide (point ≤ range.2)

def Ranges.covers (ranges : Ranges) (c : Char) : Bool :=
  ranges.coversPoint c.toNat

/-! ### Blanks -/

def blankRanges : Ranges :=
  [(0x09, 0x0d), (0x1c, 0x20), (0x85, 0x85), (0xa0, 0xa0), (0x1680, 0x1680),
   (0x2000, 0x200a), (0x2028, 0x2029), (0x202f, 0x202f), (0x205f, 0x205f), (0x3000, 0x3000)]

def isBlank (c : Char) : Bool := blankRanges.covers c

def trimStart (text : List Char) : List Char := text.dropWhile isBlank

def trimEnd (text : List Char) : List Char := (text.reverse.dropWhile isBlank).reverse

def trim (text : List Char) : List Char := trimEnd (trimStart text)

/-! ### Digits -/

/-- The code points of the zeros, one for each script's run of ten digits. -/
def zeroPoints : List Nat :=
  [0x30, 0x660, 0x6f0, 0x7c0, 0x966, 0x9e6, 0xa66, 0xae6, 0xb66, 0xbe6, 0xc66, 0xce6, 0xd66,
  0xde6, 0xe50, 0xed0, 0xf20, 0x1040, 0x1090, 0x17e0, 0x1810, 0x1946, 0x19d0, 0x1a80, 0x1a90,
  0x1b50, 0x1bb0, 0x1c40, 0x1c50, 0xa620, 0xa8d0, 0xa900, 0xa9d0, 0xa9f0, 0xaa50, 0xabf0,
  0xff10, 0x104a0, 0x10d30, 0x11066, 0x110f0, 0x11136, 0x111d0, 0x112f0, 0x11450, 0x114d0,
  0x11650, 0x116c0, 0x11730, 0x118e0, 0x11950, 0x11c50, 0x11d50, 0x11da0, 0x16a60, 0x16ac0,
  0x16b50, 0x1d7ce, 0x1d7d8, 0x1d7e2, 0x1d7ec, 0x1d7f6, 0x1e140, 0x1e2f0, 0x1e950, 0x1fbf0]

def digitValue? (c : Char) : Option Nat :=
  (zeroPoints.find? fun first => decide (first ≤ c.toNat) && decide (c.toNat < first + 10)).map
    fun first => c.toNat - first

def isDecimalDigit (c : Char) : Bool := (digitValue? c).isSome

def hexValue? (c : Char) : Option Nat :=
  if c.isDigit then some (c.toNat - '0'.toNat)
  else if decide ('a' ≤ c) && decide (c ≤ 'f') then some (c.toNat - 'a'.toNat + 10)
  else if decide ('A' ≤ c) && decide (c ≤ 'F') then some (c.toNat - 'A'.toNat + 10)
  else none

def isHexDigit (c : Char) : Bool := (hexValue? c).isSome

def isOctalDigit (c : Char) : Bool := decide ('0' ≤ c) && decide (c ≤ '7')

/-- A decimal digit of any script stands for a number below ten. -/
theorem digitValue?_lt {c : Char} {value : Nat} (h : digitValue? c = some value) : value < 10 := by
  simp only [digitValue?, Option.map_eq_some_iff] at h
  obtain ⟨first, found, rfl⟩ := h
  have inRun := List.find?_some found
  simp only [Bool.and_eq_true, decide_eq_true_eq] at inRun
  omega

end FieldRules.Text
