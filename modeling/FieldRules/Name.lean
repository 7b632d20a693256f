/-
  FieldRules/Name.lean
  ====================
  **The names of rules and constants.**

  Names are ASCII: a letter followed by letters, digits and underscores.  A
  *symbol* is a name that rule text can use as an argument, written in upper
  case throughout; every symbol is a name, and the names that are not symbols
  can be registered but never referred to as a constant.
-/
namespace FieldRules.Name

def isLetter (c : Char) : Bool := c.isAlpha

def isNameChar (c : Char) : Bool := c.isAlphanum || c == '_'

def isSymbolChar (c : Char) : Bool := c.isUpper || c.isDigit || c == '_'

def isName : List Char → Bool
  | [] => false
  | c :: rest => isLetter c && rest.all isNameChar

def isSymbol : List Char → Bool
  | [] => false
  | c :: rest => c.isUpper && rest.all isSymbolChar

/-! ### Characters of names -/

theorem isUpper_iff_toNat {c : Char} : c.isUpper = true ↔ 0x41 ≤ c.toNat ∧ c.toNat ≤ 0x5a := by
  change decide (c.val ≥ 'A'.val ∧ c.val ≤ 'Z'.val) = true ↔ _
  rw [decide_eq_true_eq, ge_iff_le, UInt32.le_iff_toNat_le, UInt32.le_iff_toNat_le]
  rfl

theorem isLower_iff_toNat {c : Char} : c.isLower = true ↔ 0x61 ≤ c.toNat ∧ c.toNat ≤ 0x7a := by
  change (decide (c.val ≥ 'a'.val) && decide (c.val ≤ 'z'.val)) = true ↔ _
  simp only [Bool.and_eq_true, decide_eq_true_eq, ge_iff_le, UInt32.le_iff_toNat_le]
  rfl

theorem isLetter_eq (c : Char) : isLetter c = (c.isUpper || c.isLower) := rfl

theorem isNameChar_eq (c : Char) :
    isNameChar c = (c.isUpper || c.isLower || c.isDigit || c == '_') := rfl

/-- The characters of names lie between the digit zero and the last small letter. -/
theorem toNat_of_isNameChar {c : Char} (h : isNameChar c = true) :
    0x30 ≤ c.toNat ∧ c.toNat ≤ 0x7a := by
  simp only [isNameChar_eq, Bool.or_eq_true, isUpper_iff_toNat, isLower_iff_toNat,
    Char.isDigit_iff_toNat, Char.reduceToNat, beq_iff_eq] at h
  rcases h with ((upper | lower) | digit) | rfl
  · omega
  · omega
  · omega
  · decide

theorem isNameChar_of_isSymbolChar {c : Char} (h : isSymbolChar c = true) :
    isNameChar c = true := by
  simp only [isSymbolChar, Bool.or_eq_true] at h
  rcases h with (h | h) | h <;> simp [isNameChar_eq, h]

theorem isName_of_isSymbol {text : List Char} (h : isSymbol text = true) : isName text = true := by
  cases text with
  | nil => simp [isSymbol] at h
  | cons c rest =>
    simp only [isSymbol, Bool.and_eq_true, List.all_eq_true] at h
    simp only [isName, Bool.and_eq_true, List.all_eq_true]
    exact ⟨by simp [isLetter_eq, h.1],
      fun d member => isNameChar_of_isSymbolChar (h.2 d member)⟩

end FieldRules.Name
