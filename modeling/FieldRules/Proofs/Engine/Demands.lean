/-
  FieldRules/Proofs/Engine/Demands.lean
  =====================================
  **A rule is built exactly where the engine has what it asks for.**

  A rule asks for a factory of its name, for a constant behind each of its
  symbols, and for whatever its factory demands of the arguments that come out
  of that.  The arguments are told here without the order in which they are
  found (`argumentsOf`), and the demands of the built-in rules without the way in
  which they are checked (`Builtin.Demands`).  A record is then built exactly
  where every rule of every field that has rules is provided for
  (`exists_buildRecord_iff_supplies`).
-/
import FieldRules.Proofs.Engine.Escaping

namespace FieldRules

/-! ### What symbols come to -/

namespace Constants

variable {constants : Constants} {symbol : String} {rest : List String}

/-- What some symbols stand for, of one kind and in their order. -/
def integersOf (constants : Constants) (symbols : List String) : List Nat :=
  symbols.filterMap fun symbol =>
    match constants.lookup? symbol with
    | some (.integer value) => some value
    | _ => none

def stringsOf (constants : Constants) (symbols : List String) : List String :=
  symbols.filterMap fun symbol =>
    match constants.lookup? symbol with
    | some (.string value) => some value
    | _ => none

theorem integersOf_cons_integer {value : Nat}
    (stands : constants.lookup? symbol = some (.integer value)) :
    constants.integersOf (symbol :: rest) = value :: constants.integersOf rest :=
  List.filterMap_cons_some (by rw [stands])

theorem integersOf_cons_string {value : String}
    (stands : constants.lookup? symbol = some (.string value)) :
    constants.integersOf (symbol :: rest) = constants.integersOf rest :=
  List.filterMap_cons_none (by rw [stands])

theorem stringsOf_cons_integer {value : Nat}
    (stands : constants.lookup? symbol = some (.integer value)) :
    constants.stringsOf (symbol :: rest) = constants.stringsOf rest :=
  List.filterMap_cons_none (by rw [stands])

theorem stringsOf_cons_string {value : String}
    (stands : constants.lookup? symbol = some (.string value)) :
    constants.stringsOf (symbol :: rest) = value :: constants.stringsOf rest :=
  List.filterMap_cons_some (by rw [stands])

end Constants

namespace Engine

theorem resolveSymbols_eq_ok_iff {constants : Constants} {integers : List Nat}
    {strings symbols : List String} {resolved : List Nat × List String} :
    resolveSymbols constants integers strings symbols = .ok resolved ↔
      (∀ symbol ∈ symbols, ∃ constant, constants.lookup? symbol = some constant) ∧
        resolved = (integers ++ constants.integersOf symbols,
          strings ++ constants.stringsOf symbols) := by
  induction symbols generalizing integers strings with
  | nil => simp [resolveSymbols, Constants.integersOf, Constants.stringsOf, eq_comm]
  | cons symbol rest ih =>
    rw [resolveSymbols, List.forall_mem_cons]
    cases stands : constants.lookup? symbol with
    | none => simp
    | some constant =>
      cases constant with
      | integer value =>
        simp only [ih, Constants.integersOf_cons_integer stands,
          Constants.stringsOf_cons_integer stands, List.append_assoc, List.singleton_append,
          Option.some.injEq, exists_eq', true_and]
      | string value =>
        simp only [ih, Constants.integersOf_cons_string stands,
          Constants.stringsOf_cons_string stands, List.append_assoc, List.singleton_append,
          Option.some.injEq, exists_eq', true_and]

variable {engine : Engine} {type : FieldType} {rule : Rule} {description : RecordDescription}

/-- What a factory is given for a rule: what is written in it, and behind that,
    kind by kind, what its symbols stand for. -/
def argumentsOf (engine : Engine) (type : FieldType) (rule : Rule) : RuleArguments where
  name := rule.name
  strings := rule.arguments.strings ++ engine.constants.stringsOf rule.arguments.symbols
  integers :=
    (rule.arguments.integers ++ engine.constants.integersOf rule.arguments.symbols).map Int.ofNat
  fieldType := type
  records := some engine.records

/-- **Arguments are resolved** if every symbol stands for a constant. -/
theorem resolve_eq_ok_iff {arguments : RuleArguments} :
    engine.resolve type rule = .ok arguments ↔
      (∀ symbol ∈ rule.arguments.symbols, ∃ constant,
        engine.constants.lookup? symbol = some constant) ∧
      arguments = engine.argumentsOf type rule := by
  unfold resolve
  constructor
  · intro done
    split at done
    · cases done
    · rename_i resolved
      obtain ⟨stand, same⟩ := resolveSymbols_eq_ok_iff.mp resolved
      cases same
      cases done
      exact ⟨stand, rfl⟩
  · rintro ⟨stand, rfl⟩
    rw [resolveSymbols_eq_ok_iff.mpr ⟨stand, rfl⟩]
    rfl

end Engine

/-! ### What factories demand -/

/-- A field refers to one record: the one of its class, or the only one that goes by the
    name that is its type. -/
inductive RefersTo (records : List RecordValidator) : FieldType → RecordValidator → Prop
  | cls {cls : RecordClass} {target : RecordValidator}
      (found : records.find? (·.cls.id == cls.id) = some target) :
      RefersTo records (.record cls) target
  | name {name : String} {target : RecordValidator}
      (only : records.filter (·.isCalled name) = [target]) :
      RefersTo records (.unresolved name) target

theorem findRecord_eq_ok_iff {arguments : RuleArguments} {target : RecordValidator} :
    Builtin.findRecord arguments = .ok target ↔
      ∃ records, arguments.records = some records ∧
        RefersTo records arguments.fieldType target := by
  unfold Builtin.findRecord
  constructor
  · intro found
    split at found
    · rename_i records cls present isRecord
      refine ⟨records, present, ?_⟩
      rw [isRecord]
      split at found
      · rename_i hit
        cases found
        exact .cls hit
      · cases found
    · rename_i records name present isName
      refine ⟨records, present, ?_⟩
      rw [isName]
      split at found
      · cases found
      · rename_i hits
        cases found
        exact .name hits
      · cases found
    · cases found
  · rintro ⟨records, present, refers⟩
    rw [present]
    generalize arguments.fieldType = type at refers
    cases refers with
    | cls found => simp [found]
    | name only => simp [only]

def Builtin.Demands (rule : Builtin) (arguments : RuleArguments) : Prop :=
  match rule with
  | max | min => arguments.integers ≠ []
  | integerRange | stringRange | notEmpty => True
  | length => arguments.fieldType.isTextClass = true ∧ arguments.integers ≠ []
  | regex => arguments.fieldType.isTextClass = true ∧ ∃ source more pattern,
      arguments.strings = source :: more ∧ Regex.parse source = .ok pattern
  | record => ∃ records target, arguments.records = some records ∧
      RefersTo records arguments.fieldType target

def Factory.Demands (factory : Factory) (arguments : RuleArguments) : Prop :=
  match factory with
  | builtin rule => rule.Demands arguments
  | custom factory => ∃ judge, factory.build arguments = .ok judge

namespace Builtin

variable {rule : Builtin} {arguments : RuleArguments}

theorem exists_firstInteger_iff :
    (∃ first, firstInteger arguments = .ok first) ↔ arguments.integers ≠ [] := by
  unfold firstInteger
  cases arguments.integers <;> simp

theorem readPattern_eq_ok_iff {source : String} {pattern : Regex} :
    readPattern source = .ok pattern ↔ Regex.parse source = .ok pattern := by
  unfold readPattern
  cases Regex.parse source with
  | ok parsed => simp
  | error fault =>
    dsimp only
    split <;> simp

/-- **A built-in rule is built exactly where its demands are met.** -/
theorem exists_build_iff :
    (∃ validator, rule.build arguments = .ok validator) ↔ rule.Demands arguments := by
  unfold build Demands
  cases rule with
  | max | min =>
    rw [← exists_firstInteger_iff]
    simp only [map_eq_ok_iff, exists_comm (α := Validator), exists_and_left, exists_eq', and_true]
  | integerRange | stringRange | notEmpty => exact iff_of_true ⟨_, rfl⟩ trivial
  | length =>
    rw [← exists_firstInteger_iff, ← requireTextField_eq_ok_iff]
    constructor
    · rintro ⟨validator, built⟩
      obtain ⟨⟨⟩, fits, counted⟩ := bind_eq_ok_iff.mp built
      obtain ⟨count, isFirst, -⟩ := bind_eq_ok_iff.mp counted
      exact ⟨fits, count, isFirst⟩
    · rintro ⟨fits, count, isFirst⟩
      rw [fits, isFirst]
      exact ⟨_, rfl⟩
  | regex =>
    rw [← requireTextField_eq_ok_iff]
    constructor
    · rintro ⟨validator, built⟩
      obtain ⟨⟨⟩, fits, sourced⟩ := bind_eq_ok_iff.mp built
      obtain ⟨source, isFirst, read⟩ := bind_eq_ok_iff.mp sourced
      obtain ⟨pattern, isPattern, -⟩ := bind_eq_ok_iff.mp read
      obtain ⟨more, strings⟩ := firstString_eq_ok_iff.mp isFirst
      exact ⟨fits, source, more, pattern, strings, readPattern_eq_ok_iff.mp isPattern⟩
    · rintro ⟨fits, source, more, pattern, strings, isPattern⟩
      rw [fits, firstString_eq_ok_iff.mpr ⟨more, strings⟩]
      exact ⟨_, bind_eq_ok_iff.mpr ⟨(), rfl, bind_eq_ok_iff.mpr ⟨source, rfl,
        bind_eq_ok_iff.mpr ⟨pattern, readPattern_eq_ok_iff.mpr isPattern, rfl⟩⟩⟩⟩
  | record =>
    constructor
    · rintro ⟨validator, built⟩
      obtain ⟨target, found, -⟩ := map_eq_ok_iff.mp built
      obtain ⟨records, present, refers⟩ := findRecord_eq_ok_iff.mp found
      exact ⟨records, target, present, refers⟩
    · rintro ⟨records, target, present, refers⟩
      have found := findRecord_eq_ok_iff.mpr ⟨records, present, refers⟩
      exact ⟨_, map_eq_ok_iff.mpr ⟨target, found, rfl⟩⟩

end Builtin

theorem Factory.exists_build_iff {factory : Factory} {arguments : RuleArguments} :
    (∃ built, factory.build arguments = .ok built) ↔ factory.Demands arguments := by
  unfold Factory.build Factory.Demands
  cases factory with
  | builtin rule =>
    dsimp only
    rw [← Builtin.exists_build_iff]
    cases rule.build arguments <;> simp [Except.map]
  | custom factory =>
    dsimp only
    cases factory.build arguments <;> simp [Except.map]

/-! ### What an engine provides -/

namespace Engine

variable {engine : Engine} {type : FieldType} {rule : Rule} {description : RecordDescription}

/-- An engine has what a rule asks for: a factory of its name, a constant behind each of its
    symbols, and with these the arguments that the factory demands. -/
structure Provides (engine : Engine) (type : FieldType) (rule : Rule) : Prop where
  symbols : ∀ symbol ∈ rule.arguments.symbols, ∃ constant,
    engine.constants.lookup? symbol = some constant
  factory : ∃ factory, engine.factory? rule.name = some factory ∧
    factory.Demands (engine.argumentsOf type rule)

/-- An engine has what a record asks for: the rules of its fields are well-formed, and each is
    provided for. -/
def Supplies (engine : Engine) (description : RecordDescription) : Prop :=
  ∀ field ∈ description.validatedFields, ∃ rules, Rule.parse (field.rules.getD "") = .ok rules ∧
    ∀ rule ∈ rules, engine.Provides field.fieldType rule

theorem exists_buildRule_iff :
    (∃ built, engine.buildRule type rule = .ok built) ↔ engine.Provides type rule := by
  constructor
  · rintro ⟨built, ready⟩
    obtain ⟨factory, arguments, known, resolved, builds⟩ := buildRule_eq_ok_iff.mp ready
    obtain ⟨symbols, rfl⟩ := resolve_eq_ok_iff.mp resolved
    exact ⟨symbols, factory, factory_eq_ok_iff.mp known,
      Factory.exists_build_iff.mp ⟨built, builds⟩⟩
  · rintro ⟨symbols, factory, known, demands⟩
    obtain ⟨built, builds⟩ := Factory.exists_build_iff.mpr demands
    exact ⟨built, buildRule_eq_ok_iff.mpr
      ⟨factory, _, factory_eq_ok_iff.mpr known, resolve_eq_ok_iff.mpr ⟨symbols, rfl⟩, builds⟩⟩

/-- **A record is built exactly where the engine has what it asks for.** -/
theorem exists_buildRecord_iff_supplies :
    (∃ validator, engine.buildRecord description = .ok validator) ↔
      engine.Supplies description := by
  rw [exists_buildRecord_iff_fields]
  simp only [exists_buildField_iff, exists_buildRule_iff, Supplies]

end Engine

end FieldRules
