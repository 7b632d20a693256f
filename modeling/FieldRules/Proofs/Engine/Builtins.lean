/-
  FieldRules/Proofs/Engine/Builtins.lean
  ======================================
  **What the factories of rules look at.**

  A factory is given the declared type of the field and the records that are
  registered, but most of the built-in rules make nothing of either.  Only the
  rule about nested records looks at the records; it and the rules about the
  length and the pattern of a text look at the type, and refuse all types but
  classes of texts, record classes and names of record classes.

  What the factories of an application look at is up to them, so it is stated
  of an engine where a result depends on it.
-/
import FieldRules.Engine.Operations
import FieldRules.Proofs.Engine.Building

namespace FieldRules

/-! ### The built-in rules -/

/-- No rule that looks at the declared type takes this one. -/
def FieldType.isUnfit : FieldType → Bool
  | plain _ ofTexts => !ofTexts
  | record _ => false
  | unresolved _ => false
  | _ => true

namespace Builtin

def looksAtType : Builtin → Bool
  | length | regex | record => true
  | _ => false

variable {rule : Builtin}

theorem build_withRecords (plain : rule ≠ .record) (arguments : RuleArguments)
    (records : Option (List RecordValidator)) :
    rule.build { arguments with records := records } = rule.build arguments := by
  cases rule with
  | record => exact absurd rfl plain
  | _ => rfl

theorem build_withType (blind : rule.looksAtType = false) (arguments : RuleArguments)
    (type : FieldType) :
    rule.build { arguments with fieldType := type } = rule.build arguments := by
  cases rule with
  | length | regex | record => cases blind
  | _ => rfl

theorem requireTextField_of_isUnfit {arguments : RuleArguments}
    (unfit : arguments.fieldType.isUnfit = true) :
    requireTextField arguments = .error (.refused (.notTextField arguments.fieldType)) := by
  unfold requireTextField
  cases type : arguments.fieldType with
  | plain name ofTexts =>
    rw [type] at unfit
    have noText : ofTexts = false := by simpa [FieldType.isUnfit] using unfit
    simp [FieldType.isTextClass, noText]
  | _ => rfl

theorem findRecord_of_isUnfit {arguments : RuleArguments}
    (unfit : arguments.fieldType.isUnfit = true) :
    findRecord arguments = .error (.refused (.unregisteredRecord arguments.fieldType)) := by
  unfold findRecord
  cases type : arguments.fieldType with
  | record cls => rw [type] at unfit; cases unfit
  | unresolved text => rw [type] at unfit; cases unfit
  | _ => cases arguments.records <;> rfl

/-- **Rules that look at the type refuse a type that is fit for none of them.** -/
theorem exists_refusal_of_isUnfit (looks : rule.looksAtType = true) {arguments : RuleArguments}
    (unfit : arguments.fieldType.isUnfit = true) :
    ∃ refusal, rule.build arguments = .error (.refused refusal) := by
  unfold build
  cases rule with
  | length =>
    rw [requireTextField_of_isUnfit unfit]
    exact ⟨_, rfl⟩
  | regex =>
    rw [requireTextField_of_isUnfit unfit]
    exact ⟨_, rfl⟩
  | record =>
    rw [findRecord_of_isUnfit unfit]
    exact ⟨_, rfl⟩
  | _ => cases looks

end Builtin

namespace Engine

variable {engine : Engine}

/-! ### The factories of an application -/

/-- An application's factories are functions of what is written and declared: the records
    that are registered at the time, which change, have no part in what they build. -/
def HasPureFactories (engine : Engine) : Prop :=
  ∀ name factory, engine.factory name = .ok (.custom factory) → ∀ arguments records,
    factory.build { arguments with records := records } = factory.build arguments

/-- What an application's factories build does not depend on the declared type. -/
def HasTypeBlindFactories (engine : Engine) : Prop :=
  ∀ name factory, engine.factory name = .ok (.custom factory) → ∀ arguments type,
    factory.build { arguments with fieldType := type } = factory.build arguments

/-! ### Engines with the built-in rules alone -/

/-- All factories are those of built-in rules, under whatever names. -/
def OnlyBuiltins (engine : Engine) : Prop :=
  ∀ name factory, engine.factory name = .ok factory → ∃ rule, factory = .builtin rule

theorem factory_eq_ok_iff {name : String} {factory : Factory} :
    engine.factory name = .ok factory ↔ engine.factory? name = some factory := by
  unfold Engine.factory
  cases engine.factory? name <;> simp

theorem OnlyBuiltins.setFactory (only : engine.OnlyBuiltins) (name : String) (rule : Builtin) :
    (engine.setFactory name (.builtin rule)).1.OnlyBuiltins := by
  intro other factory known
  rw [factory_eq_ok_iff] at known
  by_cases same : other = name
  · subst same
    have set := known.symm.trans (Table.get?_insert_self _ _ _)
    exact ⟨rule, Option.some.inj set⟩
  · have kept := (Table.get?_insert_of_ne _ _ same).symm.trans known
    exact only other factory (factory_eq_ok_iff.mpr kept)

theorem OnlyBuiltins.of_factories {other : Engine} (only : engine.OnlyBuiltins)
    (same : other.factories = engine.factories) : other.OnlyBuiltins := by
  intro name factory known
  rw [factory_eq_ok_iff, factory?, same] at known
  exact only name factory (factory_eq_ok_iff.mpr known)

theorem OnlyBuiltins.erase (only : engine.OnlyBuiltins) (name : String) :
    OnlyBuiltins { engine with factories := engine.factories.erase name } := by
  intro other factory known
  rw [factory_eq_ok_iff, factory?] at known
  by_cases same : other = name
  · subst same
    rw [Table.get?_erase_self] at known
    cases known
  · rw [Table.get?_erase_of_ne _ same] at known
    exact only other factory (factory_eq_ok_iff.mpr known)

theorem OnlyBuiltins.setFactories (only : engine.OnlyBuiltins) (rules : List Builtin) :
    (engine.setFactories (rules.map fun rule => (rule.name, .builtin rule))).1.OnlyBuiltins := by
  induction rules generalizing engine with
  | nil => exact only
  | cons rule rest ih => exact ih (only.setFactory rule.name rule)

/-- **A new engine has the built-in rules alone**, or none. -/
theorem onlyBuiltins_create (builtins : Bool) : (create builtins).1.OnlyBuiltins := by
  have none : Engine.OnlyBuiltins {} := fun name factory known => nomatch known
  cases builtins with
  | false => exact none
  | true => exact none.setFactories Builtin.all

theorem OnlyBuiltins.hasPureFactories (only : engine.OnlyBuiltins) : engine.HasPureFactories := by
  intro name factory known
  obtain ⟨rule, other⟩ := only name _ known
  cases other

theorem OnlyBuiltins.hasTypeBlindFactories (only : engine.OnlyBuiltins) :
    engine.HasTypeBlindFactories := by
  intro name factory known
  obtain ⟨rule, other⟩ := only name _ known
  cases other

end Engine

end FieldRules
