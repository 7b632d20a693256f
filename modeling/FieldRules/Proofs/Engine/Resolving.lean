/-
  FieldRules/Proofs/Engine/Resolving.lean
  =======================================
  **Resolving symbols loses none and keeps their order.**

  A symbol is resolved where either table of constants has its name, and then to
  one value of one kind: the integer of that name, or else the string.  So each
  symbol adds one argument to those that are written (`size_resolved`), behind
  all others of its kind that come before it.  The one thing that can go
  wrong is a name in neither table, and of several such names it is the leftmost
  that is told (`resolveSymbols_eq_error_iff`).
-/
import FieldRules.Proofs.Engine.Demands

namespace FieldRules

namespace Constants

variable {constants : Constants} {name : String} {symbols : List String}

/-! ### Names in the tables -/

def string? (constants : Constants) (name : String) : Option String :=
  if constants.integers.has name then none else constants.strings.get? name

theorem lookup?_eq_none_iff : constants.lookup? name = none ↔ constants.has name = false := by
  unfold lookup? has Table.has
  cases constants.integers.get? name <;> simp

theorem exists_lookup?_iff :
    (∃ constant, constants.lookup? name = some constant) ↔ constants.has name = true := by
  rw [← Option.isSome_iff_exists, Option.isSome_iff_ne_none, ne_eq, lookup?_eq_none_iff,
    Bool.not_eq_false]

/-- The integers that symbols come to are those of their names in the table of integers. -/
theorem integersOf_eq_filterMap :
    constants.integersOf symbols = symbols.filterMap constants.integers.get? := by
  refine congrArg (symbols.filterMap ·) (funext fun symbol => ?_)
  unfold lookup?
  cases constants.integers.get? symbol with
  | some value => rfl
  | none => cases constants.strings.get? symbol <;> rfl

theorem stringsOf_eq_filterMap :
    constants.stringsOf symbols = symbols.filterMap constants.string? := by
  refine congrArg (symbols.filterMap ·) (funext fun symbol => ?_)
  unfold lookup? string? Table.has
  cases constants.integers.get? symbol with
  | some value => rfl
  | none => cases constants.strings.get? symbol <;> rfl

/-- **Each symbol that stands for a constant comes to one value**, of the one kind or the other. -/
theorem length_integersOf_add_length_stringsOf
    (stand : ∀ symbol ∈ symbols, ∃ constant, constants.lookup? symbol = some constant) :
    (constants.integersOf symbols).length + (constants.stringsOf symbols).length =
      symbols.length := by
  induction symbols with
  | nil => rfl
  | cons symbol rest ih =>
    rw [List.forall_mem_cons] at stand
    obtain ⟨⟨constant, stands⟩, others⟩ := stand
    have later := ih others
    cases constant with
    | integer value =>
      rw [integersOf_cons_integer stands, stringsOf_cons_integer stands, List.length_cons,
        List.length_cons]
      omega
    | string value =>
      rw [integersOf_cons_string stands, stringsOf_cons_string stands, List.length_cons,
        List.length_cons]
      omega

theorem find?_not_has_eq_none_iff :
    symbols.find? (!constants.has ·) = none ↔
      ∀ symbol ∈ symbols, ∃ constant, constants.lookup? symbol = some constant := by
  simp only [List.find?_eq_none, Bool.not_eq_true', Bool.not_eq_false, exists_lookup?_iff]

end Constants

namespace Engine

variable {engine : Engine} {type : FieldType} {rule : Rule} {fault : BuildFault}

/-! ### Symbols that are in neither table -/

/-- **Symbols cannot be resolved** where one of them is in neither table; the leftmost is told. -/
theorem resolveSymbols_eq_error_iff {constants : Constants} {integers : List Nat}
    {strings symbols : List String} :
    resolveSymbols constants integers strings symbols = .error fault ↔
      ∃ symbol, symbols.find? (!constants.has ·) = some symbol ∧
        .unknownConstant symbol = fault := by
  induction symbols generalizing integers strings with
  | nil => simp [resolveSymbols]
  | cons symbol rest ih =>
    rw [resolveSymbols, List.find?_cons]
    cases stands : constants.lookup? symbol with
    | none =>
      rw [Constants.lookup?_eq_none_iff.mp stands]
      simp
    | some constant =>
      rw [Constants.exists_lookup?_iff.mp ⟨constant, stands⟩]
      cases constant with
      | integer value => exact ih
      | string value => exact ih

theorem resolve_eq_error_iff :
    engine.resolve type rule = .error fault ↔
      ∃ symbol, rule.arguments.symbols.find? (!engine.constants.has ·) = some symbol ∧
        .unknownConstant symbol = fault := by
  rw [← resolveSymbols_eq_error_iff]
  unfold resolve
  split
  · rename_i unresolved
    rw [unresolved, Except.error.injEq, Except.error.injEq]
  · rename_i resolved
    rw [resolved]
    exact iff_of_false nofun nofun

theorem size_argumentsOf
    (stand : ∀ symbol ∈ rule.arguments.symbols, ∃ constant,
      engine.constants.lookup? symbol = some constant) :
    (engine.argumentsOf type rule).integers.length +
      (engine.argumentsOf type rule).strings.length = rule.arguments.size := by
  have each := Constants.length_integersOf_add_length_stringsOf stand
  simp only [argumentsOf, Arguments.size, List.length_map, List.length_append]
  omega

/-- **Resolving a rule loses nothing and reorders nothing.**  It fails where a symbol is in neither
    table, and then tells the leftmost such symbol.  Otherwise the integers are those that
    are written and then the values of the symbols that are in the table of integers, and
    the strings are those that are written and then the values of the symbols that are in the
    table of strings alone, in the order of the symbols in both cases; so they are together
    as many as the arguments that are written, whatever the values are and however often a
    symbol is repeated. -/
theorem resolving_loses_nothing (engine : Engine) (type : FieldType) (rule : Rule) :
    (∀ fault, engine.resolve type rule = .error fault ↔
      ∃ symbol, rule.arguments.symbols.find? (!engine.constants.has ·) = some symbol ∧
        .unknownConstant symbol = fault) ∧
    ∀ arguments, engine.resolve type rule = .ok arguments ↔
      (∀ symbol ∈ rule.arguments.symbols, engine.constants.has symbol = true) ∧
      arguments.integers = (rule.arguments.integers ++
        rule.arguments.symbols.filterMap engine.constants.integers.get?).map Int.ofNat ∧
      arguments.strings = rule.arguments.strings ++
        rule.arguments.symbols.filterMap engine.constants.string? ∧
      arguments.integers.length + arguments.strings.length = rule.arguments.size ∧
      arguments.name = rule.name ∧ arguments.fieldType = type ∧
      arguments.records = some engine.records := by
  refine ⟨fun fault => resolve_eq_error_iff, fun arguments => ?_⟩
  rw [resolve_eq_ok_iff, ← Constants.integersOf_eq_filterMap, ← Constants.stringsOf_eq_filterMap]
  simp only [Constants.exists_lookup?_iff]
  constructor
  · rintro ⟨registered, rfl⟩
    have stand : ∀ symbol ∈ rule.arguments.symbols, ∃ constant,
        engine.constants.lookup? symbol = some constant :=
      fun symbol member => Constants.exists_lookup?_iff.mpr (registered symbol member)
    exact ⟨registered, rfl, rfl, size_argumentsOf stand, rfl, rfl, rfl⟩
  · rintro ⟨registered, integers, strings, -, name, fieldType, records⟩
    refine ⟨registered, ?_⟩
    obtain ⟨_, _, _, _, _⟩ := arguments
    subst name strings integers fieldType records
    rfl

/-- Zero, the empty string and a symbol that is repeated all count. -/
example :
    (resolveSymbols { integers := [("ZERO", 0)], strings := [("ZERO", "0"), ("NONE", "")] }
      [7] ["a"] ["ZERO", "NONE", "ZERO", "NONE"]).toOption = some ([7, 0, 0], ["a", "", ""]) := by
  decide +kernel

end Engine

end FieldRules
