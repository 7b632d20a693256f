/-
  FieldRules/Proofs/CommandLine/Numerals.lean
  ===========================================
  **A number below 2^64 and its numeral are one to the rules that compare numbers.**

  The rules tell the integer and its numerals the same (`ToldAlike`).  So does a
  check on the command line, whether the value is declared as an integer, and
  read as one, or stays a text: the rules are built alike, as they make nothing
  of the declared type, and a numeral that is too long to be read as an integer
  stays a text in either case.

  From 2^64 on the two part: the integer is taken modulo 2^64, and the numeral
  is no integer to the rules.
-/
import FieldRules.CommandLine.Run
import FieldRules.Proofs.Engine.Frozen
import FieldRules.Proofs.Engine.Optional
import FieldRules.Proofs.Validator.Numbers

namespace FieldRules

open FieldRules.Number

/-! ### Values that are told alike -/

/-- To the rules that compare numbers, two values are one number. -/
def ToldAlike (value other : Value) : Prop :=
  (∃ number, value.toUnsigned = .ok (some number) ∧ other.toUnsigned = .ok (some number)) ∧
    ∀ (rule : Builtin) (arguments : RuleArguments) (validator : Validator),
      rule.comparesNumbers = true →
      rule.build arguments = .ok validator → validator.run value = validator.run other

/-- To the rules that compare numbers, a value is no number. -/
def ToldNoInteger (value : Value) : Prop :=
  value.toUnsigned = .ok none ∧
    ∀ (rule : Builtin) (arguments : RuleArguments) (validator : Validator),
      rule.comparesNumbers = true →
      rule.build arguments = .ok validator →
        validator.run value = .failed (.wrongKind "an integer" value.className)

theorem toldAlike_of_toUnsigned {value other : Value} {number : Nat}
    (stands : value.toUnsigned = .ok (some number))
    (also : other.toUnsigned = .ok (some number)) : ToldAlike value other :=
  ⟨⟨number, stands, also⟩, fun _ _ _ compares built =>
    run_eq_of_toUnsigned compares built stands also⟩

/-! ### Rules about numbers in the engine of a command -/

/-- The rule has the name of a built-in rule that compares numbers. -/
def Rule.ComparesNumbers (rule : Rule) : Prop :=
  ∃ builtin : Builtin, builtin.comparesNumbers = true ∧ rule.name = builtin.name

def Rule.TextComparesNumbers (text : String) : Prop :=
  ∀ rules, Rule.parse text = .ok rules → ∀ rule ∈ rules, rule.ComparesNumbers

namespace Engine

variable {engine : Engine} {rule : Rule}

/-- The built-in rules stand under their own names, and there are no other rules. -/
def HasBuiltins (engine : Engine) : Prop := engine.factories = (create true).1.factories

theorem HasBuiltins.factory_name (builtins : engine.HasBuiltins) (builtin : Builtin) :
    engine.factory builtin.name = .ok (.builtin builtin) := by
  rw [factory_eq_ok_iff, factory?, builtins]
  cases builtin <;> rfl

theorem HasBuiltins.hasTypeBlindFactories (builtins : engine.HasBuiltins) :
    engine.HasTypeBlindFactories :=
  ((onlyBuiltins_create true).of_factories builtins).hasTypeBlindFactories

theorem exists_factory_of_comparesNumbers (builtins : engine.HasBuiltins)
    (compares : rule.ComparesNumbers) :
    ∃ builtin : Builtin, builtin.comparesNumbers = true ∧
      engine.factory rule.name = .ok (.builtin builtin) := by
  obtain ⟨builtin, comparesNumbers, isName⟩ := compares
  exact ⟨builtin, comparesNumbers, isName ▸ builtins.factory_name builtin⟩

theorem not_asksType_of_comparesNumbers (builtins : engine.HasBuiltins)
    (compares : rule.ComparesNumbers) : ¬ engine.AsksType rule := by
  obtain ⟨builtin, comparesNumbers, known⟩ := exists_factory_of_comparesNumbers builtins compares
  rintro ⟨other, isOther, looks⟩
  cases known.symm.trans isOther
  cases builtin <;> simp_all [Builtin.comparesNumbers, Builtin.looksAtType]

theorem ask_eq_of_toldAlike (builtins : engine.HasBuiltins) (compares : rule.ComparesNumbers)
    {value other : Value} (alike : ToldAlike value other) (type : FieldType) :
    engine.ask type rule value = engine.ask type rule other := by
  obtain ⟨builtin, comparesNumbers, known⟩ := exists_factory_of_comparesNumbers builtins compares
  unfold ask
  cases ready : engine.buildRule type rule with
  | error fault => rfl
  | ok built =>
    obtain ⟨factory, arguments, isFactory, -, builds⟩ := buildRule_eq_ok_iff.mp ready
    cases known.symm.trans isFactory
    obtain ⟨validator, tested, rfl⟩ := map_eq_ok_iff.mp builds
    exact alike.2 builtin arguments validator comparesNumbers tested

/-- **A text whose rules compare numbers is compiled alike for all plain types.** -/
theorem compile_eq_of_textComparesNumbers (builtins : engine.HasBuiltins) {text : String}
    (compares : Rule.TextComparesNumbers text) (declared other : CommandLine.Declared)
    (name : String) :
    engine.compile text declared.fieldType name = engine.compile text other.fieldType name := by
  have plain (declared : CommandLine.Declared) :
      declared.fieldType.unwrapOptional = (declared.fieldType, false) := by
    cases declared <;> rfl
  rw [compile_eq_buildField, compile_eq_buildField, FieldDescription.ofText,
    FieldDescription.ofText, plain, plain, buildField, buildField, Option.getD_some]
  cases read : Rule.parse text with
  | error fault => rfl
  | ok rules =>
    have same : engine.buildRules declared.fieldType rules =
        engine.buildRules other.fieldType rules := by
      refine buildRules_congr fun rule member => ?_
      exact buildRule_congr_type builtins.hasTypeBlindFactories
        (not_asksType_of_comparesNumbers builtins (compares rules read rule member)) _ _
    simp only [same]

theorem run_compile_eq_of_toldAlike (builtins : engine.HasBuiltins) {text name : String}
    (compares : Rule.TextComparesNumbers text) {declared : CommandLine.Declared}
    {validator : Validator} (built : engine.compile text declared.fieldType name = .ok validator)
    {value other : Value} (alike : ToldAlike value other) :
    validator.run value = validator.run other := by
  have required : (FieldDescription.ofText text declared.fieldType name).optional = false := by
    cases declared <;> rfl
  have looks (value : Value) :
      (FieldDescription.ofText text declared.fieldType name).waives value = false := by
    cases value <;> simp [FieldDescription.waives, required]
  rw [compile_eq_buildField] at built
  have read := (ready_of_buildField built).1
  have asked : List.Forall₂ (fun rule rule' =>
      engine.ask (FieldDescription.ofText text declared.fieldType name).fieldType rule value =
        engine.ask (FieldDescription.ofText text declared.fieldType name).fieldType rule' other)
      (FieldDescription.ofText text declared.fieldType name).readRules
      (FieldDescription.ofText text declared.fieldType name).readRules := by
    rw [List.forall₂_same]
    intro rule member
    exact ask_eq_of_toldAlike builtins (compares _ read rule member) alike _
  rw [run_buildField built, run_buildField built, looks, looks, if_neg (by simp),
    if_neg (by simp), Outcome.inOrder_eq_of_forall₂ asked]

end Engine

/-! ### Checks on the command line -/

namespace CommandLine

variable {digits : String} {number : Nat}

/-- The engine of a command has the built-in rules, whatever constants are loaded. -/
theorem hasBuiltins_of_prepare {constants : Option String} {read : FilePath → FileContent}
    {engine : Engine} (prepared : (prepare constants read).2 = .ok engine) :
    engine.HasBuiltins := by
  unfold prepare at prepared
  dsimp only at prepared
  split at prepared
  · cases prepared
    rfl
  · rename_i path _
    split at prepared
    · cases prepared
    · cases prepared
      obtain ⟨constants, same⟩ := Engine.exists_loadConstants_eq (Engine.create true).1 path read
      have kept := congrArg Engine.factories same
      exact kept

theorem convert_int_of_spells (spelled : Spells digits number) :
    convert .int digits = if maxDigits < digits.length then .text digits else .integer number := by
  rw [convert, readInteger_of_spells spelled]
  by_cases tooLong : maxDigits < digits.length
  · rw [if_pos tooLong, if_pos tooLong]
  · rw [if_neg tooLong, if_neg tooLong]

/-- **A check of a numeral shows the same under either type**, if what the numeral spells
    is below 2^64. -/
theorem showCheck_int_eq_str {engine : Engine} (builtins : engine.HasBuiltins) {text : String}
    (compares : Rule.TextComparesNumbers text) (spelled : Spells digits number)
    (fits : number < integerModulus) (name : String) :
    showCheck engine text digits .int name = showCheck engine text digits .str name := by
  unfold showCheck
  rw [Engine.compile_eq_of_textComparesNumbers builtins compares .str .int]
  cases built : engine.compile text Declared.int.fieldType name with
  | error fault => rfl
  | ok validator =>
    have same : validator.run (convert .int digits) = validator.run (convert .str digits) := by
      rw [convert_int_of_spells spelled]
      by_cases tooLong : maxDigits < digits.length
      · -- too long to be read as an integer, the word stays a text under either type
        rw [if_pos tooLong]
        rfl
      · rw [if_neg tooLong]
        have stands : (Value.text digits).toUnsigned = .ok (some number) := by
          rw [Value.toUnsigned_of_spells rfl spelled (Nat.not_lt.mp tooLong), if_pos fits]
        have also : (Value.integer number).toUnsigned = .ok (some number) := by
          rw [Value.toUnsigned_natCast, Nat.mod_eq_of_lt fits]
        exact Engine.run_compile_eq_of_toldAlike builtins compares built
          (toldAlike_of_toUnsigned also stands)
    simp only [same]

theorem withEngine_congr {present other : Engine → Screen}
    (same : ∀ engine : Engine, engine.HasBuiltins → present engine = other engine)
    (verbose : Bool) (constants : Option String) (read : FilePath → FileContent) :
    withEngine verbose constants read present = withEngine verbose constants read other := by
  have kept (engine : Engine) (prepared : (prepare constants read).2 = .ok engine) :
      present engine = other engine := same engine (hasBuiltins_of_prepare prepared)
  unfold withEngine
  generalize prepare constants read = result at kept ⊢
  obtain ⟨notices, error | engine⟩ := result
  · rfl
  · simp only [kept engine rfl]

end CommandLine

/-! ### Numerals and integers -/

/-- **Below 2^64 a number and its numerals are one**, with any zeros in front.  The rules
    that compare numbers tell the integer and each text with the numeral the same, an upper
    bound lets no integer pass that is above it, and a check on the command line ends the
    same whether the value is declared as an integer or as a text.

    From 2^64 on they are not: an integer is told what it is told modulo 2^64, and its
    numerals are told that they are no integers. -/
theorem numeral_counts_as_integer {digits : String} {number : Nat}
    (spelled : Spells digits number) :
    (digits.length ≤ maxDigits → ∀ text : Value, text.text? = some digits →
      (number < integerModulus → ToldAlike (.integer number) text) ∧
      (integerModulus ≤ number →
        ToldAlike (.integer number) (.integer ↑(number % integerModulus)) ∧
          ToldNoInteger text)) ∧
    (∀ (arguments : RuleArguments) bound more validator, arguments.integers = bound :: more →
      Builtin.max.build arguments = .ok validator → ∀ value : Int, bound < value →
        value < integerModulus → ¬ (validator.run (.integer value)).Passes) ∧
    (number < integerModulus → ∀ words words' verbose rules constants name read,
      CommandLine.request words = .run verbose (.check rules digits constants .int name) →
      CommandLine.request words' = .run verbose (.check rules digits constants .str name) →
      Rule.TextComparesNumbers rules →
        CommandLine.run words read = CommandLine.run words' read) := by
  refine ⟨fun short text isText => ⟨fun fits => ?_, fun great => ⟨?_, ?_, ?_⟩⟩, ?_, ?_⟩
  · refine toldAlike_of_toUnsigned (Value.toUnsigned_natCast number) ?_
    rw [Value.toUnsigned_of_spells isText spelled short, if_pos fits, Nat.mod_eq_of_lt fits]
  · refine toldAlike_of_toUnsigned (Value.toUnsigned_natCast number) ?_
    rw [Value.toUnsigned_natCast, Nat.mod_mod]
  · rw [Value.toUnsigned_of_spells isText spelled short, if_neg (Nat.not_lt.mpr great)]
  · intro rule arguments validator compares built
    exact run_numeral_of_great compares built isText spelled short great
  · intro arguments bound more validator bounds built value above fits
    exact not_max_passes_of_above bounds built above fits
  · intro fits words words' verbose rules constants name read asks asks' compares
    rw [CommandLine.run, CommandLine.run, asks, asks']
    exact CommandLine.withEngine_congr (fun engine builtins =>
      CommandLine.showCheck_int_eq_str builtins compares spelled fits name) verbose constants read

theorem spells_007 : Spells "007" 7 := ⟨by decide, List.all_eq_true.mp (by decide), by decide⟩

/-- The first number that has no place in 64 bits. -/
theorem spells_2_64 : Spells "18446744073709551616" integerModulus :=
  ⟨by decide, List.all_eq_true.mp (by decide), by decide +kernel⟩

theorem textComparesNumbers_max : Rule.TextComparesNumbers "max(5)" := by
  have names : (Rule.parse "max(5)").toOption.map (·.map (·.name)) = some ["max"] := by
    decide +kernel
  intro rules read rule member
  obtain ⟨others, isRead, named⟩ := exists_of_toOption_map names
  obtain rfl := Except.ok.inj (read.symm.trans isRead)
  have isMax : rule.name ∈ ["max"] := named ▸ List.mem_map_of_mem member
  exact ⟨.max, rfl, List.mem_singleton.mp isMax⟩

theorem build_max_five :
    Builtin.max.build { integers := [5] } = .ok (.test (.atMost 5)) := rfl

theorem numeral_counts_as_integer_007 :
    ToldAlike (.integer 7) (.text "007") ∧
      ToldNoInteger (.text "18446744073709551616") ∧
      ¬ (Validator.run (.test (.atMost 5)) (.integer 7)).Passes ∧
      ∀ read, CommandLine.run ["check", "max(5)", "007", "--type", "int"] read =
        CommandLine.run ["check", "max(5)", "007", "--type", "str"] read := by
  obtain ⟨values, bounds, checks⟩ := numeral_counts_as_integer spells_007
  obtain ⟨greatValues, -, -⟩ := numeral_counts_as_integer spells_2_64
  refine ⟨(values (by decide) _ rfl).1 (by decide),
    ((greatValues (by decide) _ rfl).2 (Nat.le_refl _)).2,
    bounds _ 5 [] _ rfl build_max_five 7 (by decide) (by decide), fun read => ?_⟩
  exact checks (by decide) _ _ false "max(5)" none "value" read (by decide +kernel)
    (by decide +kernel) textComparesNumbers_max

/-- At 2^64 an integer passes an upper bound far below it, and its numeral does not. -/
theorem not_told_alike_at_2_64 :
    ¬ ∀ digits number, Spells digits number → ∀ arguments validator,
      Builtin.max.build arguments = .ok validator →
        ((validator.run (.integer number)).Passes ↔ (validator.run (.text digits)).Passes) := by
  intro alike
  have same := alike _ _ spells_2_64 _ _ build_max_five
  have isText : (Value.text "18446744073709551616").text? = some "18446744073709551616" := rfl
  have refused := run_numeral_of_great rfl build_max_five isText spells_2_64 (by decide)
    (Nat.le_refl _)
  have passes : (Validator.run (.test (.atMost 5)) (.integer integerModulus)).Passes :=
    (max_passes_iff rfl build_max_five _).mpr (by decide)
  have numeralPasses := same.mp passes
  rw [refused] at numeralPasses
  exact Outcome.not_passes_failed _ numeralPasses

end FieldRules
