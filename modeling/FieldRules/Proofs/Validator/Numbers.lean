/-
  FieldRules/Proofs/Validator/Numbers.lean
  ========================================
  **What the rules that compare numbers make of integers and of numerals.**

  Such a rule sees of a value only the unsigned integer that it stands for
  (`exists_judge_of_comparesNumbers`).  An integer stands for what it is modulo
  2^64, and a numeral for what it spells if that is below 2^64, and otherwise
  for nothing; so the two are told apart exactly from 2^64 on.  A numeral that
  is too long to be read breaks a comparison off.
-/
import FieldRules.Proofs.Engine.Building
import FieldRules.Proofs.Number.Spelling

namespace FieldRules

open FieldRules.Number

def Builtin.comparesNumbers : Builtin → Bool
  | max | min | integerRange => true
  | _ => false

/-! ### The numbers that values stand for -/

/-- A text of digits that are too many to be read as a number. -/
structure Value.IsTooLongNumeral (value : Value) (digits : Nat) : Prop where
  numeral : ∃ content, value.text? = some content ∧ content.length = digits ∧
    ∀ c ∈ content.toList, c.isDigit = true
  tooLong : maxDigits < digits

namespace Value

variable {value text : Value} {digits : String} {number : Nat}

theorem toUnsigned_of_text? (isText : text.text? = some digits) :
    text.toUnsigned =
      if digits.toList.isEmpty || !digits.toList.all Char.isDigit then .ok .none
      else if maxDigits < digits.length then .error (.numeralTooLong digits.length)
      else
        .ok (if ofDecimalChars digits.toList < integerModulus
          then some (ofDecimalChars digits.toList) else .none) := by
  rw [← String.length_toList]
  cases text with
  | text content => cases isText; rfl
  | namedText className content => cases isText; rfl
  | _ => cases isText

/-- A numeral that is not too long stands for what it spells, if that is below 2^64. -/
theorem toUnsigned_of_spells (isText : text.text? = some digits) (spelled : Spells digits number)
    (short : digits.length ≤ maxDigits) :
    text.toUnsigned = .ok (if number < integerModulus then some number else .none) := by
  have isNumeral : (digits.toList.isEmpty || !digits.toList.all Char.isDigit) = false := by
    rw [Bool.or_eq_false_iff, Bool.not_eq_false', List.all_eq_true]
    exact ⟨by simpa using spelled.nonempty, spelled.digits⟩
  rw [toUnsigned_of_text? isText, isNumeral, ofDecimalChars_eq, spelled.value,
    if_neg (by simp), if_neg (Nat.not_lt.mpr short)]

theorem toUnsigned_natCast (number : Nat) :
    (integer number).toUnsigned = .ok (some (number % integerModulus)) := by
  rw [toUnsigned, ← Int.natCast_emod, Int.toNat_natCast]

/-- **Only a numeral that is too long does not say whether it stands for a number.** -/
theorem toUnsigned_eq_error_iff {fault : RunFault} :
    value.toUnsigned = .error fault ↔
      ∃ digits, value.IsTooLongNumeral digits ∧ fault = .numeralTooLong digits := by
  cases isText : value.text? with
  | none =>
    have noNumeral : ¬ ∃ digits, value.IsTooLongNumeral digits ∧ fault = .numeralTooLong digits := by
      rintro ⟨digits, ⟨⟨content, isContent, -⟩, -⟩, -⟩
      rw [isText] at isContent
      cases isContent
    refine iff_of_false ?_ noNumeral
    cases value with
    | text content => cases isText
    | namedText className content => cases isText
    | _ => simp [toUnsigned, text?]
  | some content =>
    rw [toUnsigned_of_text? isText]
    constructor
    · intro fails
      split at fails
      · cases fails
      · rename_i numeral
        split at fails
        · rename_i tooLong
          cases fails
          have allDigits : ∀ c ∈ content.toList, c.isDigit = true := by
            rw [Bool.or_eq_true, not_or, Bool.not_eq_true', Bool.not_eq_false,
              List.all_eq_true] at numeral
            exact numeral.2
          exact ⟨_, ⟨⟨content, isText, rfl, allDigits⟩, tooLong⟩, rfl⟩
        · cases fails
    · rintro ⟨digits, ⟨⟨other, isOther, rfl, allDigits⟩, tooLong⟩, rfl⟩
      obtain rfl := Option.some.inj (isText.symm.trans isOther)
      have isNumeral : (content.toList.isEmpty || !content.toList.all Char.isDigit) = false := by
        rw [Bool.or_eq_false_iff, Bool.not_eq_false', List.all_eq_true]
        refine ⟨?_, allDigits⟩
        rw [List.isEmpty_eq_false_iff, ← List.length_pos_iff, String.length_toList]
        exact Nat.zero_lt_of_lt tooLong
      rw [isNumeral, if_neg (by simp), if_pos tooLong]

end Value

/-! ### The rules that compare numbers -/

variable {rule : Builtin} {arguments : RuleArguments} {validator : Validator}
  {value other text : Value} {digits : String} {number : Nat}

/-- **A rule that compares numbers judges the number that a value stands for.** -/
theorem exists_judge_of_comparesNumbers (compares : rule.comparesNumbers = true)
    (built : rule.build arguments = .ok validator) :
    ∃ judge, ∀ value, validator.run value = Test.judgeNumber value judge := by
  cases rule with
  | max | min =>
    obtain ⟨bound, -, rfl⟩ := map_eq_ok_iff.mp built
    exact ⟨_, fun value => rfl⟩
  | integerRange =>
    cases built
    exact ⟨_, fun value => rfl⟩
  | _ => cases compares

theorem Test.judgeNumber_eq_error_iff {judge : Nat → Option FailureCause} {fault : RunFault} :
    (judgeNumber value judge).verdict = .error fault ↔ value.toUnsigned = .error fault := by
  unfold judgeNumber
  rcases value.toUnsigned with error | _ | number
  · simp
  · simp [Outcome.failed]
  · cases judged : judge number <;> simp [judged, Outcome.passed, Outcome.failed]

theorem Test.judgeText_ne_error {judge : String → Option FailureCause} {fault : RunFault} :
    (judgeText value judge).verdict ≠ .error fault := by
  unfold judgeText
  cases value.text? with
  | none => simp [Outcome.failed]
  | some content => cases judged : judge content <;> simp [judged, Outcome.passed, Outcome.failed]

theorem run_ne_error_of_text_rule (plain : rule ≠ .record) (other : rule.comparesNumbers = false)
    (built : rule.build arguments = .ok validator) (value : Value) (fault : RunFault) :
    (validator.run value).verdict ≠ .error fault := by
  unfold Builtin.build at built
  cases rule with
  | max | min | integerRange => cases other
  | record => exact absurd rfl plain
  | stringRange | notEmpty =>
    cases built
    exact Test.judgeText_ne_error
  | length =>
    obtain ⟨-, -, counted⟩ := bind_eq_ok_iff.mp built
    obtain ⟨count, -, tested⟩ := bind_eq_ok_iff.mp counted
    cases tested
    exact Test.judgeText_ne_error
  | regex =>
    obtain ⟨-, -, sourced⟩ := bind_eq_ok_iff.mp built
    obtain ⟨source, -, read⟩ := bind_eq_ok_iff.mp sourced
    obtain ⟨pattern, -, tested⟩ := bind_eq_ok_iff.mp read
    cases tested
    exact Test.judgeText_ne_error

/-- **Of the rules that do not look into records, those that compare numbers break a run
    off**, and only on a numeral that is too long. -/
theorem run_eq_error_iff (plain : rule ≠ .record) (built : rule.build arguments = .ok validator)
    {fault : RunFault} :
    (validator.run value).verdict = .error fault ↔
      rule.comparesNumbers = true ∧
        ∃ digits, value.IsTooLongNumeral digits ∧ fault = .numeralTooLong digits := by
  cases compares : rule.comparesNumbers with
  | false => simp [run_ne_error_of_text_rule plain compares built value fault]
  | true =>
    obtain ⟨judge, judged⟩ := exists_judge_of_comparesNumbers compares built
    rw [judged, Test.judgeNumber_eq_error_iff, Value.toUnsigned_eq_error_iff]
    simp

/-- Values that stand for one number are told the same. -/
theorem run_eq_of_toUnsigned (compares : rule.comparesNumbers = true)
    (built : rule.build arguments = .ok validator)
    (stands : value.toUnsigned = .ok (some number))
    (also : other.toUnsigned = .ok (some number)) : validator.run value = validator.run other := by
  obtain ⟨judge, judged⟩ := exists_judge_of_comparesNumbers compares built
  rw [judged, judged, Test.judgeNumber, Test.judgeNumber, stands, also]

/-- From 2^64 on a numeral is no integer. -/
theorem run_numeral_of_great (compares : rule.comparesNumbers = true)
    (built : rule.build arguments = .ok validator) (isText : text.text? = some digits)
    (spelled : Spells digits number) (short : digits.length ≤ maxDigits)
    (great : integerModulus ≤ number) :
    validator.run text = .failed (.wrongKind "an integer" text.className) := by
  obtain ⟨judge, judged⟩ := exists_judge_of_comparesNumbers compares built
  rw [judged, Test.judgeNumber, Value.toUnsigned_of_spells isText spelled short,
    if_neg (Nat.not_lt.mpr great)]

/-- **An upper bound lets an integer pass that is not above it modulo 2^64.** -/
theorem max_passes_iff {bound : Int} {more : List Int} (bounds : arguments.integers = bound :: more)
    (built : Builtin.max.build arguments = .ok validator) (value : Int) :
    (validator.run (.integer value)).Passes ↔ value % integerModulus ≤ bound := by
  have worth : ((value % integerModulus).toNat : Int) = value % integerModulus :=
    Int.toNat_of_nonneg (Int.emod_nonneg value (by decide))
  rw [Builtin.build, Builtin.firstInteger, bounds] at built
  cases built
  rw [Validator.run, Test.run, Test.judgeNumber, Value.toUnsigned]
  dsimp only
  rw [worth]
  by_cases above : bound < value % integerModulus
  · rw [if_pos above]
    exact iff_of_false (Outcome.not_passes_failed _) (Int.not_le.mpr above)
  · rw [if_neg above]
    exact iff_of_true Outcome.passes_passed (Int.not_lt.mp above)

/-- Below 2^64 no integer above an upper bound passes it. -/
theorem not_max_passes_of_above {bound value : Int} {more : List Int}
    (bounds : arguments.integers = bound :: more)
    (built : Builtin.max.build arguments = .ok validator) (above : bound < value)
    (fits : value < integerModulus) : ¬ (validator.run (.integer value)).Passes := by
  rw [max_passes_iff bounds built, Int.not_le]
  rcases Int.lt_or_le value 0 with negative | natural
  · have reduced : 0 ≤ value % integerModulus := Int.emod_nonneg value (by decide)
    omega
  · rwa [Int.emod_eq_of_lt natural fits]

end FieldRules
