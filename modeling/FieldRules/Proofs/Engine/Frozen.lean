/-
  FieldRules/Proofs/Engine/Frozen.lean
  ====================================
  **What is compiled stays as it is.**

  Operations only add to the records of an engine, and to the validators that
  were compiled from rule text, each behind the others.  As no class is
  registered twice, what is found under a class is found there ever after; and
  as a validator shows what its rules read at the moment of its registration, no
  later rule, constant or record has a part in it.
-/
import FieldRules.Proofs.Engine.Reading

namespace FieldRules

def FieldDescription.ofText (rules : String) (type : FieldType) (name : String) :
    FieldDescription where
  name := name
  fieldType := type.unwrapOptional.1
  rules := some rules
  optional := type.unwrapOptional.2

theorem Engine.compile_eq_buildField (engine : Engine) (rules : String) (type : FieldType)
    (name : String) :
    engine.compile rules type name = engine.buildField (.ofText rules type name) := rfl

namespace History

variable {earlier later : History}

/-- **A registered class keeps its validator.** -/
theorem Reaches.record?_eq_some (reaches : earlier.Reaches later) {cls : RecordClass}
    {validator : RecordValidator} (found : earlier.engine.record? cls = some validator) :
    later.engine.record? cls = some validator :=
  reaches.records_isPrefix.find?_eq_some found

theorem Reaches.compiled_getElem? (reaches : earlier.Reaches later) {place : Nat}
    {validator : Validator} (there : earlier.compiled[place]? = some validator) :
    later.compiled[place]? = some validator := by
  obtain ⟨inside, same⟩ := List.getElem?_eq_some_iff.mp there
  rw [← same]
  exact List.prefix_iff_getElem?.mp reaches.compiled_isPrefix place inside

theorem exists_compile {history : History} {validator : Validator}
    (member : validator ∈ history.compiled) :
    ∃ (past : History) (rules : String) (type : FieldType) (name : String),
      past.Reaches history ∧ past.engine.compile rules type name = .ok validator := by
  induction history with
  | start builtins => cases member
  | next before operation ih =>
    have kept (old : validator ∈ before.compiled) :
        ∃ (past : History) (rules : String) (type : FieldType) (name : String),
          past.Reaches (before.next operation) ∧
            past.engine.compile rules type name = .ok validator := by
      obtain ⟨past, rules, type, name, reaches, compiles⟩ := ih old
      exact ⟨past, rules, type, name, reaches.next operation, compiles⟩
    cases operation with
    | compile rules type name =>
      unfold compiled at member
      split at member
      · rename_i added compiles
        rcases List.mem_append.mp member with old | last
        · exact kept old
        · obtain rfl := List.mem_singleton.mp last
          exact ⟨before, rules, type, name, .next _ (.refl _), compiles⟩
      · exact kept member
    | _ => exact kept member

/-- **What is compiled stays as it is**, whatever is done with the engine later.  A
    class that is registered stays so, with the same validator, and registering it
    again gives this validator and changes nothing, whatever the description.  Its
    records are told what they were told before: they pass if the description by
    which the class was registered accepts them, as its rules read at that time.
    Validators that are compiled from rule text stay likewise, with the reading of
    their rules. -/
theorem frozen_at_registration (reaches : earlier.Reaches later) :
    (∀ cls validator, earlier.engine.record? cls = some validator →
      later.engine.record? cls = some validator ∧
      (∀ description,
        later.engine.registerRecord cls description = .ok ⟨later.engine, validator, true⟩) ∧
      (∀ attributes, later.engine.validate (.record cls attributes) =
        earlier.engine.validate (.record cls attributes)) ∧
      ∃ past description, earlier.Registered past description validator ∧
        ∀ attributes, (validator.run (.record cls attributes)).Passes ↔
          past.Accepts description (.record cls attributes)) ∧
    (∀ (place : Nat) validator, earlier.compiled[place]? = some validator →
      later.compiled[place]? = some validator ∧
      ∃ (past : History) (rules : String) (type : FieldType) (name : String),
        past.Reaches earlier ∧ past.engine.compile rules type name = .ok validator ∧
        ∀ value, (validator.run value).Passes ↔
          past.AcceptsField (.ofText rules type name) value) := by
  constructor
  · intro cls validator found
    have still := reaches.record?_eq_some found
    obtain ⟨past, description, registered⟩ := registered_of_record? found
    refine ⟨still, ?_, ?_, past, description, registered, ?_⟩
    · intro other
      exact Engine.registerRecord_eq_ok_iff.mpr (.inl ⟨validator, still, rfl⟩)
    · intro attributes
      rw [validate_of_record? still, validate_of_record? found]
    · intro attributes
      have isInstance := isInstanceOf_of_record? found attributes
      rw [registered.run_passes_iff]
      exact ⟨fun both => both.2, fun accepted => ⟨isInstance, accepted⟩⟩
  · intro place validator there
    refine ⟨reaches.compiled_getElem? there, ?_⟩
    obtain ⟨past, rules, type, name, before, compiles⟩ :=
      exists_compile (List.mem_of_getElem? there)
    refine ⟨past, rules, type, name, before, compiles, ?_⟩
    rw [Engine.compile_eq_buildField] at compiles
    exact run_passes_iff_acceptsField compiles

/-- The residents' engine, with another lowest floor, without the rule for it, and
    with an attempt to register persons without any rules. -/
def rearranged : History :=
  ((residents.next (.registerInteger (.text "LOWEST") (.integer 9))).next
    (.deregisterRule "min")).next (.registerRecord (.ofDescription { cls := personClass }))

theorem frozen_at_registration_of_residents :
    residents.Reaches rearranged ∧ (rearranged.engine.factory "min").toBool = false ∧
      ∃ validator, residents.engine.record? personClass = some validator ∧
        rearranged.engine.registerRecord personClass (.ok { cls := personClass }) =
          .ok ⟨rearranged.engine, validator, true⟩ ∧
        ∀ attributes, rearranged.engine.validate (.record personClass attributes) =
          residents.engine.validate (.record personClass attributes) := by
  have reaches : residents.Reaches rearranged := .next _ (.next _ (.next _ (.refl _)))
  obtain ⟨validator, found, -⟩ := exists_fieldNames_residents
  obtain ⟨-, again, same, -⟩ := (frozen_at_registration reaches).1 personClass validator found
  exact ⟨reaches, by decide +kernel, validator, found, again _, same⟩

end History

end FieldRules
