/-
  FieldRules/Proofs/Number/Spelling.lean
  ======================================
  **The decimal spellings of a number, and how they are read.**

  A number has many spellings: its digits, with any number of zeros in front.
  What reads integers from text, and gives much freedom to how they are
  written, reads a spelling as the number that it spells, unless the spelling
  is too long.
-/
import FieldRules.Number.Numeral
import FieldRules.Proofs.Text.Run

namespace FieldRules.Number

open FieldRules.Text

/-- The text is a decimal spelling of the number, perhaps with zeros in front. -/
structure Spells (text : String) (number : Nat) : Prop where
  nonempty : text.toList ≠ []
  digits : ∀ c ∈ text.toList, c.isDigit = true
  value : Nat.ofDigitChars 10 text.toList 0 = number

variable {digits : List Char} {text : String} {number : Nat}

theorem ofDigits_map_eq (digits : List Char) (value : Nat) :
    (digits.map fun c => c.toNat - '0'.toNat).foldl (fun value digit => value * 10 + digit) value =
      Nat.ofDigitChars 10 digits value := by
  induction digits generalizing value with
  | nil => rfl
  | cons c rest ih => rw [List.map_cons, List.foldl_cons, ih, Nat.ofDigitChars_cons, Nat.mul_comm]

/-- Digits are worth what they spell. -/
theorem ofDecimalChars_eq (digits : List Char) :
    ofDecimalChars digits = Nat.ofDigitChars 10 digits 0 :=
  ofDigits_map_eq digits 0

/-! ### Reading an integer -/

theorem toNat_of_isDigit {c : Char} (digit : c.isDigit = true) : 48 ≤ c.toNat ∧ c.toNat ≤ 57 := by
  simpa only [Char.isDigit_iff_toNat, Char.reduceToNat] using digit

theorem digitValue?_of_isDigit {c : Char} (digit : c.isDigit = true) :
    digitValue? c = some (c.toNat - '0'.toNat) := by
  obtain ⟨low, high⟩ := toNat_of_isDigit digit
  have inFirstRun : zeroPoints.find? (fun first =>
      decide (first ≤ c.toNat) && decide (c.toNat < first + 10)) = some 0x30 := by
    refine List.find?_cons_of_pos ?_
    simp only [Bool.and_eq_true, decide_eq_true_eq]
    omega
  rw [digitValue?, inFirstRun]
  rfl

theorem isNumberBlank_of_isDigit {c : Char} (digit : c.isDigit = true) :
    isNumberBlank c = false := by
  obtain ⟨low, high⟩ := toNat_of_isDigit digit
  rw [isNumberBlank, isBlank_eq_false (by omega) (by omega), Bool.false_and]

theorem dropWhile_eq_self {p : Char → Bool} {chars : List Char} (none : ∀ c ∈ chars, p c = false) :
    chars.dropWhile p = chars := by
  cases chars with
  | nil => rfl
  | cons c rest =>
    rw [List.forall_mem_cons] at none
    rw [List.dropWhile_cons_of_neg (by simp [none.1])]

theorem trimBlanks_of_digits (allDigits : ∀ c ∈ digits, c.isDigit = true) :
    trimBlanks digits = digits := by
  have noBlank : ∀ c ∈ digits, isNumberBlank c = false :=
    fun c member => isNumberBlank_of_isDigit (allDigits c member)
  rw [trimBlanks, dropWhile_eq_self noBlank, dropWhile_eq_self, List.reverse_reverse]
  intro c member
  exact noBlank c (List.mem_reverse.mp member)

theorem takeSign_of_digits (allDigits : ∀ c ∈ digits, c.isDigit = true) :
    takeSign digits = (false, digits) := by
  unfold takeSign
  split
  · exact absurd (allDigits '-' List.mem_cons_self) (by decide)
  · exact absurd (allDigits '+' List.mem_cons_self) (by decide)
  · rfl

theorem digitsOf?_of_digits (some : digits ≠ []) (allDigits : ∀ c ∈ digits, c.isDigit = true) :
    digitsOf? digitValue? 10 digits = .some (digits.map fun c => c.toNat - '0'.toNat) := by
  induction digits with
  | nil => exact absurd rfl some
  | cons c rest ih =>
    rw [List.forall_mem_cons] at allDigits
    have value := digitValue?_of_isDigit allDigits.1
    have small : ¬ 10 ≤ c.toNat - '0'.toNat := Nat.not_le.mpr (digitValue?_lt value)
    rw [digitsOf?, value]
    simp only [small, if_false]
    split
    · rfl
    · exact absurd (allDigits.2 '_' List.mem_cons_self) (by decide)
    · rename_i others _
      rw [ih others allDigits.2]
      rfl

/-- **A spelling is read as the number that it spells**, unless it is too long. -/
theorem readInteger_of_spells (spelled : Spells text number) :
    readInteger text =
      if maxDigits < text.length then .error (.tooLong text.length) else .ok number := by
  have digits := digitsOf?_of_digits spelled.nonempty spelled.digits
  have worth : ofDigits 10 (text.toList.map fun c => c.toNat - '0'.toNat) = number :=
    (ofDecimalChars_eq _).trans spelled.value
  unfold readInteger
  rw [trimBlanks_of_digits spelled.digits, takeSign_of_digits spelled.digits]
  simp only [digits, worth, List.length_map, String.length_toList, Bool.false_eq_true, if_false]

end FieldRules.Number
