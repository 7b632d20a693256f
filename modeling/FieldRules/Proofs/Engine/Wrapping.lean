/-
  FieldRules/Proofs/Engine/Wrapping.lean
  ======================================
  **Rules that compare numbers do so modulo 2^64.**

  A numeral of any length stands for its value modulo 2^64, whether it is reduced
  digit by digit or in the end, and an integer of any size and sign for its
  remainder, which is never negative.  So what such a rule asks, from its text to
  its verdict, is asked of the remainders of what is written and of what is
  validated.
-/
import FieldRules.Proofs.Engine.Demands
import FieldRules.Proofs.Engine.Frozen
import FieldRules.Proofs.Rule.Spelling
import FieldRules.Proofs.Validator.Numbers

namespace FieldRules

open FieldRules.Number
open FieldRules.Text

/-! ### Numerals as arguments -/

namespace Arguments

/-- Numerals with a comma and a blank between them are argument text. -/
theorem exists_items_of_spells {numerals : List String} {numbers : List Nat}
    (spelled : List.Forall₂ Spells numerals numbers) :
    ∃ items : List Item, Closed items ∧ itemsText items = (", ".intercalate numerals).toList ∧
      itemsValues items = { integers := numbers } := by
  induction spelled with
  | nil => exact ⟨[], trivial, by simp, rfl⟩
  | @cons numeral number later more first others ih =>
    obtain ⟨items, closed, isText, values⟩ := ih
    let token : Token := .integer ⟨numeral.toList, first.digits⟩ first.nonempty
    have isValue : token.values = { integers := [number] } := by
      simp [token, Token.values, first.value]
    cases others with
    | nil =>
      refine ⟨[(token, Run.empty)], ⟨.inr (.inr rfl), trivial⟩, ?_, ?_⟩
      · simp [token, Token.text]
      · rw [itemsValues_cons, isValue]
        rfl
    | cons next rest =>
      have separated : commaBlank.chars ≠ [] := List.cons_ne_nil _ _
      refine ⟨(token, commaBlank) :: items, ⟨.inr (.inl separated), closed⟩, ?_, ?_⟩
      · rw [itemsText_cons, isText, String.intercalate_cons_cons]
        simp [token, Token.text, commaBlank]
      · rw [itemsValues_cons, isValue, values]
        rfl

end Arguments

/-- A rule whose arguments are numerals is read with their values modulo 2^64. -/
theorem Rule.exists_parse_of_spells {name : String} (isName : Name.isName name.toList = true)
    {numerals : List String} {numbers : List Nat}
    (spelled : List.Forall₂ Spells numerals numbers) :
    ∃ rule, Rule.parse (name ++ "(" ++ ", ".intercalate numerals ++ ")") = .ok [rule] ∧
      rule.name = name ∧
      rule.arguments = { integers := numbers.map (· % integerModulus) } := by
  obtain ⟨items, closed, isText, values⟩ := Arguments.exists_items_of_spells spelled
  let source : Spelled := ⟨name.toList, isName, Run.empty, ⟨Run.empty, items, closed⟩⟩
  have same : String.ofList source.text = name ++ "(" ++ ", ".intercalate numerals ++ ")" := by
    rw [← String.toList_inj]
    simp [source, Spelled.text, Arguments.Written.text, isText]
  have read := parse_text_alone source
  rw [same] at read
  refine ⟨_, read, String.ofList_toList, ?_⟩
  simp [source, Spelled.located, Arguments.Written.values, values, Arguments.reduced]

/-! ### Single rules -/

theorem Builtin.isName_name (builtin : Builtin) : Name.isName builtin.name.toList = true := by
  cases builtin <;> decide

namespace Engine

variable {engine : Engine} {rule : Rule} {builtin : Builtin} {test : Test} {text : String}
  {type : FieldType}

/-- **A text with one rule, built in and with a test, makes the test.** -/
theorem exists_compile_of_single (read : Rule.parse text = .ok [rule])
    (known : engine.factory rule.name = .ok (.builtin builtin))
    (stand : ∀ symbol ∈ rule.arguments.symbols, ∃ constant,
      engine.constants.lookup? symbol = some constant)
    (builds : builtin.build (engine.argumentsOf type.unwrapOptional.1 rule) = .ok (.test test))
    (name : String) :
    ∃ validator, engine.compile text type name = .ok validator ∧
      ∀ value, value ≠ .none → validator.run value = (test.run value).inField name := by
  have ready : engine.buildRule type.unwrapOptional.1 rule = .ok (some (.test test)) := by
    refine buildRule_eq_ok_iff.mpr ⟨_, _, known, resolve_eq_ok_iff.mpr ⟨stand, rfl⟩, ?_⟩
    rw [Factory.build, builds]
    rfl
  obtain ⟨validator, built⟩ : ∃ validator,
      engine.buildField (.ofText text type name) = .ok validator := by
    refine exists_buildField_iff.mpr ⟨[rule], read, ?_⟩
    intro other member
    rw [List.mem_singleton.mp member]
    exact ⟨_, ready⟩
  refine ⟨validator, built, fun value present => ?_⟩
  have rules : (FieldDescription.ofText text type name).readRules = [rule] :=
    Except.ok.inj ((ready_of_buildField built).1.symm.trans read)
  have looks : ¬ (FieldDescription.ofText text type name).waives value = true := by
    rw [FieldDescription.waives_iff]
    exact fun waived => present waived.2
  rw [run_buildField built, if_neg looks, rules, Outcome.inOrder, Outcome.inOrder,
    Outcome.andThen_passed]
  exact congrArg (·.inField name) (ask_eq ready value)

end Engine

/-! ### Integers that are let pass -/

/-- Of the integers, a validator lets those pass that have a property, and fails the others
    with a code. -/
structure Validator.Admits (validator : Validator) (admits : Int → Prop) (code : String) :
    Prop where
  passes_iff : ∀ value : Int, (validator.run (.integer value)).Passes ↔ admits value
  fails : ∀ value : Int, ¬ admits value → ∃ failure,
    (validator.run (.integer value)).verdict = .ok (some failure) ∧ failure.cause.code = code

namespace Test

variable {bound : Int} {allowed : List Int} {value : Int}

theorem toNat_emod (value : Int) :
    ((value % integerModulus).toNat : Int) = value % integerModulus :=
  Int.toNat_of_nonneg (Int.emod_nonneg value (by decide))

theorem run_atMost : (atMost bound).run (.integer value) =
    if value % integerModulus ≤ bound then .passed
    else .failed (.above (value % integerModulus).toNat bound) := by
  rw [run, judgeNumber, Value.toUnsigned]
  simp only [toNat_emod]
  by_cases above : bound < value % integerModulus
  · rw [if_pos above, if_neg (Int.not_le.mpr above)]
  · rw [if_neg above, if_pos (Int.not_lt.mp above)]

theorem run_atLeast : (atLeast bound).run (.integer value) =
    if bound ≤ value % integerModulus then .passed
    else .failed (.below (value % integerModulus).toNat bound) := by
  rw [run, judgeNumber, Value.toUnsigned]
  simp only [toNat_emod]
  by_cases below : value % integerModulus < bound
  · rw [if_pos below, if_neg (Int.not_le.mpr below)]
  · rw [if_neg below, if_pos (Int.not_lt.mp below)]

theorem run_oneOfNumbers : (oneOfNumbers allowed).run (.integer value) =
    if value % integerModulus ∈ allowed then .passed
    else .failed (.unlistedNumber (value % integerModulus).toNat) := by
  rw [run, judgeNumber, Value.toUnsigned]
  simp only [toNat_emod, List.contains_iff_mem]
  by_cases listed : value % integerModulus ∈ allowed
  · rw [if_pos listed, if_pos listed]
  · rw [if_neg listed, if_neg listed]

/-- **A test that decides a property of integers**, with causes of one code. -/
theorem admits_of_run {test : Test} {validator : Validator} {name code : String}
    {admits : Int → Prop} [DecidablePred admits] {cause : Int → FailureCause}
    (shows : ∀ value : Int, validator.run (.integer value) =
      (test.run (.integer value)).inField name)
    (decides : ∀ value : Int, test.run (.integer value) =
      if admits value then .passed else .failed (cause value))
    (coded : ∀ value, (cause value).code = code) : validator.Admits admits code where
  passes_iff value := by
    rw [shows, Outcome.inField_passes_iff, decides]
    by_cases admitted : admits value
    · rw [if_pos admitted]
      exact iff_of_true Outcome.passes_passed admitted
    · rw [if_neg admitted]
      exact iff_of_false (Outcome.not_passes_failed _) admitted
  fails value refused := by
    rw [shows, decides, if_neg refused]
    exact ⟨_, rfl, coded value⟩

end Test

namespace Engine

variable {engine : Engine} {builtin : Builtin} {numerals : List String} {numbers : List Nat}

/-- **A built-in rule with numerals as its arguments** is compiled, and its validator lets those
    integers pass that its test does, which is made with the values modulo 2^64. -/
theorem exists_admits_of_numerals (known : engine.factory builtin.name = .ok (.builtin builtin))
    (spelled : List.Forall₂ Spells numerals numbers) {test : Test} {admits : Int → Prop}
    [DecidablePred admits] {cause : Int → FailureCause} {code : String}
    (builds : ∀ arguments : RuleArguments,
      arguments.integers = numbers.map (fun number : Nat => (number : Int) % integerModulus) →
        builtin.build arguments = .ok (.test test))
    (decides : ∀ value : Int, test.run (.integer value) =
      if admits value then .passed else .failed (cause value))
    (coded : ∀ value, (cause value).code = code) (type : FieldType) (name : String) :
    ∃ validator,
      engine.compile (builtin.name ++ "(" ++ ", ".intercalate numerals ++ ")") type name =
        .ok validator ∧
      validator.Admits admits code := by
  obtain ⟨rule, read, named, arguments⟩ :=
    Rule.exists_parse_of_spells builtin.isName_name spelled
  have stand : ∀ symbol ∈ rule.arguments.symbols, ∃ constant,
      engine.constants.lookup? symbol = some constant := by
    rw [arguments]
    exact List.forall_mem_nil _
  have integers : (engine.argumentsOf type.unwrapOptional.1 rule).integers =
      numbers.map (fun number : Nat => (number : Int) % integerModulus) := by
    simp [argumentsOf, arguments, Constants.integersOf, Function.comp_def]
  obtain ⟨validator, built, shows⟩ :=
    exists_compile_of_single read (named ▸ known) stand (builds _ integers) name
  refine ⟨validator, built, Test.admits_of_run (fun value => shows _ ?_) decides coded⟩
  rintro ⟨⟩

/-- **From their text to their verdict, the rules that compare numbers compute modulo 2^64.**
    In an engine that has these rules under their names, whatever constants and records it
    has, let numerals spell numbers, of any length and with any zeros in front.  For
    every type, the text that asks for an upper bound, for a lower bound, or for one
    of several numbers is compiled.  Its validator lets an integer pass, of any size and
    sign, exactly if its remainder modulo 2^64, which is not negative, is at most that of the bound,
    or at least, or that of one of the numbers; and it fails others with the code of its rule. -/
theorem numbers_compared_modulo {engine : Engine}
    (known : ∀ rule : Builtin, rule.comparesNumbers = true →
      engine.factory rule.name = .ok (.builtin rule)) (type : FieldType) (name : String) :
    (∀ numeral number, Spells numeral number →
      (∃ validator, engine.compile ("max(" ++ numeral ++ ")") type name = .ok validator ∧
        validator.Admits (fun value => value % integerModulus ≤ (number : Int) % integerModulus)
          "RT101") ∧
      ∃ validator, engine.compile ("min(" ++ numeral ++ ")") type name = .ok validator ∧
        validator.Admits (fun value => value % integerModulus ≥ (number : Int) % integerModulus)
          "RT101") ∧
    ∀ numerals numbers, List.Forall₂ Spells numerals numbers →
      ∃ validator, engine.compile ("irange(" ++ ", ".intercalate numerals ++ ")") type name =
          .ok validator ∧
        validator.Admits (fun value => ∃ number ∈ numbers,
          value % integerModulus = ((number : Nat) : Int) % integerModulus) "RT102" := by
  refine ⟨fun numeral number spelled => ?_, fun numerals numbers spelled => ?_⟩
  · have alone : List.Forall₂ Spells [numeral] [number] := .cons spelled .nil
    have atMost := exists_admits_of_numerals (known .max rfl) alone
      (fun arguments integers => by rw [Builtin.build, Builtin.firstInteger, integers]; rfl)
      (fun _ => Test.run_atMost) (fun _ => rfl) type name
    have atLeast := exists_admits_of_numerals (known .min rfl) alone
      (fun arguments integers => by rw [Builtin.build, Builtin.firstInteger, integers]; rfl)
      (fun _ => Test.run_atLeast) (fun _ => rfl) type name
    rw [String.intercalate_singleton] at atMost atLeast
    exact ⟨atMost, atLeast⟩
  · have decides (value : Int) :
        (Test.oneOfNumbers (numbers.map fun number : Nat => (number : Int) % integerModulus)).run
            (.integer value) =
          if ∃ number ∈ numbers, value % integerModulus = (number : Int) % integerModulus then
            .passed
          else .failed (.unlistedNumber (value % integerModulus).toNat) := by
      rw [Test.run_oneOfNumbers]
      exact if_congr (by simp [eq_comm]) rfl rfl
    exact exists_admits_of_numerals (known .integerRange rfl) spelled
      (fun arguments integers => by rw [Builtin.build, integers]) decides (fun _ => rfl) type name

/-- With a bound of 2^64 + 5, and zeros in front, 2^64 + 3 passes and -1 does not, which is the
    greatest number there is modulo 2^64. -/
theorem numbers_compared_modulo_of_great :
    (∃ validator,
      (create true).1.compile "max(00018446744073709551621)" .absent "number" = .ok validator ∧
        (validator.run (.integer 18446744073709551619)).Passes ∧
        ∃ failure, (validator.run (.integer (-1))).verdict = .ok (some failure) ∧
          failure.cause.code = "RT101") ∧
    ∃ validator,
      (create true).1.compile "irange(7, 18446744073709551615)" .absent "number" = .ok validator ∧
        (validator.run (.integer (-1))).Passes := by
  have known (rule : Builtin) (_ : rule.comparesNumbers = true) :
      (create true).1.factory rule.name = .ok (.builtin rule) := by
    cases rule <;> rfl
  have great : Spells "00018446744073709551621" 18446744073709551621 :=
    ⟨by decide, List.all_eq_true.mp (by decide), by decide +kernel⟩
  have listed : List.Forall₂ Spells ["7", "18446744073709551615"] [7, 18446744073709551615] :=
    .cons ⟨by decide, List.all_eq_true.mp (by decide), by decide +kernel⟩
      (.cons ⟨by decide, List.all_eq_true.mp (by decide), by decide +kernel⟩ .nil)
  obtain ⟨bounds, ranges⟩ := numbers_compared_modulo known .absent "number"
  obtain ⟨⟨validator, built, admits⟩, -⟩ := bounds _ _ great
  obtain ⟨other, built', admits'⟩ := ranges _ _ listed
  refine ⟨⟨validator, built, ?_, ?_⟩, other, built', ?_⟩
  · exact (admits.passes_iff _).mpr (by decide)
  · exact admits.fails _ (by decide)
  · exact (admits'.passes_iff _).mpr ⟨18446744073709551615, by decide, by decide⟩

end Engine

end FieldRules
