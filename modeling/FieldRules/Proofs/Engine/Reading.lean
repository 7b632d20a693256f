/-
  FieldRules/Proofs/Engine/Reading.lean
  =====================================
  **Validating a record is reading its rules.**

  `Passes` says what it is for a value to pass a rule, as the rule reads at the
  moment of its registration: with the factories, the constants and the records
  that were there.  A rule about nested records refers to a record that was
  registered earlier, and is read by the description of that record, as of that
  earlier moment.

  The validator that was built then shows just this (`run_passes_iff`), and
  where a value is refused, it shows what the first rule shows that the value
  does not pass (`exists_refusal_or_missing`).  The proofs go by the history: what
  a record refers to has a shorter one.
-/
import FieldRules.Proofs.Engine.History

namespace FieldRules

open Outcome (inOrder inOrder_passes_iff)

/-! ### What rules and fields show -/

namespace Engine

variable {engine : Engine}

/-- What a rule shows on a value: what is built for it shows, if it can be built. -/
def ask (engine : Engine) (type : FieldType) (rule : Rule) (value : Value) : Outcome :=
  match engine.buildRule type rule with
  | .ok built => Validator.shownBy value built
  | .error _ => .passed

/-- What a field shows on a record: nothing if the field waives its rules, and
    otherwise what they show in order, attributed to the field. -/
def askField (engine : Engine) (record : Value) (field : FieldDescription) : Outcome :=
  match record.attribute? field.name with
  | none => { verdict := .error (.missingAttribute record.className field.name) }
  | some present =>
    if field.waives present then .passed
    else (inOrder (engine.ask field.fieldType · present) field.readRules).inField field.name

theorem ask_eq {type : FieldType} {rule : Rule} {built : Option Validator}
    (ready : engine.buildRule type rule = .ok built) (value : Value) :
    engine.ask type rule value = Validator.shownBy value built := by
  rw [ask, ready]

theorem run_buildField {field : FieldDescription} {validator : Validator}
    (built : engine.buildField field = .ok validator) (present : Value) :
    validator.run present =
      if field.waives present then .passed
      else (inOrder (engine.ask field.fieldType · present) field.readRules).inField
        field.name := by
  obtain ⟨rules, validators, read, ready, rfl⟩ := buildField_eq_ok_iff.mp built
  have inner : (Validator.inField field.name (Validator.chain validators)).run present =
      (inOrder (engine.ask field.fieldType · present) field.readRules).inField field.name := by
    have sameRules : field.readRules = rules := by
      rw [FieldDescription.readRules, read]
    have each : List.Forall₂ (fun rule validator =>
        engine.ask field.fieldType rule present = Validator.shownBy present validator)
        rules validators :=
      (buildRules_eq_ok_iff.mp ready).imp fun _ _ ready => ask_eq ready present
    rw [Validator.run, Validator.run_chain, sameRules, Outcome.inOrder_eq_of_forall₂ each]
  cases option : field.optional with
  | false =>
    have required : field.waives present = false := by
      cases present <;> simp [FieldDescription.waives, option]
    rw [if_neg (by simp), inner, required, if_neg (by simp)]
  | true =>
    rw [if_pos rfl]
    cases present with
    | none => simp [Validator.run, FieldDescription.waives, option]
    | _ => simpa [Validator.run, FieldDescription.waives] using inner

/-- **A record validator shows what the fields of its description show in order.** -/
theorem run_buildRecord {description : RecordDescription} {validator : RecordValidator}
    (built : engine.buildRecord description = .ok validator) (value : Value) :
    validator.run value =
      if value.isInstanceOf validator.cls then
        inOrder (engine.askField value) description.validatedFields
      else .failed (.wrongKind ("a " ++ validator.cls.qualifiedName) value.className) := by
  have each : List.Forall₂ (fun field entry =>
      engine.askField value field = Validator.shownByField value entry)
      description.validatedFields validator.fields := by
    refine (buildRecord_eq_ok_iff.mp built).2.imp ?_
    rintro field ⟨name, inner⟩ ⟨rfl, ready⟩
    unfold askField Validator.shownByField Validator.readAttribute
    cases value.attribute? field.name with
    | none => rfl
    | some present => exact (run_buildField ready present).symm
  rw [RecordValidator.run_eq, Outcome.inOrder_eq_of_forall₂ each]

theorem askField_passes_iff {record : Value} {field : FieldDescription} :
    (engine.askField record field).Passes ↔
      ∃ present, record.attribute? field.name = some present ∧
        ((field.optional = true ∧ present = .none) ∨
          ∀ rule ∈ field.readRules, (engine.ask field.fieldType rule present).Passes) := by
  unfold askField
  cases record.attribute? field.name with
  | none =>
    constructor
    · intro passes
      cases passes
    · rintro ⟨present, absent, -⟩
      cases absent
  | some present =>
    simp only [Option.some.injEq, exists_eq_left']
    rw [← FieldDescription.waives_iff]
    cases field.waives present with
    | true => simp [Outcome.passes_passed]
    | false => simp [Outcome.inField_passes_iff, inOrder_passes_iff]

theorem ready_of_buildField {field : FieldDescription} {validator : Validator}
    (built : engine.buildField field = .ok validator) :
    Rule.parse (field.rules.getD "") = .ok field.readRules ∧
      ∀ rule ∈ field.readRules, ∃ ready, engine.buildRule field.fieldType rule = .ok ready := by
  obtain ⟨rules, validators, read, ready, -⟩ := buildField_eq_ok_iff.mp built
  have sameRules : field.readRules = rules := by
    rw [FieldDescription.readRules, read]
  rw [sameRules]
  refine ⟨read, ?_⟩
  intro rule isRule
  obtain ⟨validator, -, ruleBuilt⟩ :=
    exists_right_of_forall₂ (buildRules_eq_ok_iff.mp ready) isRule
  exact ⟨validator, ruleBuilt⟩

theorem ready_of_buildRecord {description : RecordDescription} {validator : RecordValidator}
    (built : engine.buildRecord description = .ok validator) {field : FieldDescription}
    (member : field ∈ description.validatedFields) :
    Rule.parse (field.rules.getD "") = .ok field.readRules ∧
      ∀ rule ∈ field.readRules, ∃ ready, engine.buildRule field.fieldType rule = .ok ready := by
  obtain ⟨entry, -, -, fieldBuilt⟩ :=
    exists_right_of_forall₂ (buildRecord_eq_ok_iff.mp built).2 member
  exact ready_of_buildField fieldBuilt

/-- What a rule about nested records shows is what the record validator shows
    that it refers to. -/
theorem ask_eq_run_of_findRecord {type : FieldType} {rule : Rule} {arguments : RuleArguments}
    {target : RecordValidator} (known : engine.factory rule.name = .ok (.builtin .record))
    (resolved : engine.resolve type rule = .ok arguments)
    (found : Builtin.findRecord arguments = .ok target) (value : Value) :
    engine.ask type rule value = target.run value := by
  have built : engine.buildRule type rule = .ok (some target.toValidator) :=
    buildRule_eq_ok_iff.mpr ⟨_, arguments, known, resolved,
      build_record_eq_ok_iff.mpr ⟨target, found, rfl⟩⟩
  rw [ask_eq built]
  rfl

end Engine

/-! ### What it is to pass -/

namespace History

/-- A value passes a rule as it reads when a past has passed.  A rule of any other
    factory is passed if what the factory builds passes the value, nothing built
    being passed by every value.  A rule about nested records is passed by the
    instances of the record it refers to whose attributes are there and pass, each
    unless its field waives its rules, the rules of the description by which that
    record was registered, as they read at that time. -/
inductive Passes : History → FieldType → Rule → Value → Prop
  | own {past : History} {type : FieldType} {rule : Rule} {value : Value} {factory : Factory}
      {arguments : RuleArguments} {built : Option Validator}
      (known : past.engine.factory rule.name = .ok factory) (other : factory ≠ .builtin .record)
      (resolved : past.engine.resolve type rule = .ok arguments)
      (builds : factory.build arguments = .ok built)
      (passes : (Validator.shownBy value built).Passes) : Passes past type rule value
  | nested {past earlier : History} {type : FieldType} {rule : Rule} {value : Value}
      {arguments : RuleArguments} {target : RecordValidator} {description : RecordDescription}
      (known : past.engine.factory rule.name = .ok (.builtin .record))
      (resolved : past.engine.resolve type rule = .ok arguments)
      (found : Builtin.findRecord arguments = .ok target)
      (isInstance : value.isInstanceOf target.cls = true)
      (registered : past.Registered earlier description target)
      (complete : ∀ field ∈ description.validatedFields, (value.attribute? field.name).isSome)
      (fields : ∀ field ∈ description.validatedFields, ∀ present,
        value.attribute? field.name = some present →
        ¬ (field.optional = true ∧ present = .none) →
        ∀ inner ∈ field.readRules, Passes earlier field.fieldType inner present) :
      Passes past type rule value

/-- The value of a field is accepted: it is absent and may be, or passes all rules. -/
def AcceptsField (past : History) (field : FieldDescription) (value : Value) : Prop :=
  (field.optional = true ∧ value = .none) ∨
    ∀ rule ∈ field.readRules, past.Passes field.fieldType rule value

/-- A record has all attributes that a description has rules for, and they are accepted. -/
def Accepts (past : History) (description : RecordDescription) (record : Value) : Prop :=
  ∀ field ∈ description.validatedFields, ∃ present,
    record.attribute? field.name = some present ∧ past.AcceptsField field present

variable {history past : History} {description : RecordDescription} {validator : RecordValidator}

theorem Passes.ask_passes {type : FieldType} {rule : Rule} {value : Value}
    (passes : past.Passes type rule value) : (past.engine.ask type rule value).Passes := by
  induction passes with
  | own known other resolved builds passes =>
    have built := Engine.buildRule_eq_ok_iff.mpr ⟨_, _, known, resolved, builds⟩
    rw [Engine.ask_eq built]
    exact passes
  | nested known resolved found isInstance registered complete fields ih =>
    rw [Engine.ask_eq_run_of_findRecord known resolved found,
      Engine.run_buildRecord registered.built, if_pos isInstance, inOrder_passes_iff]
    intro field member
    obtain ⟨present, there⟩ := Option.isSome_iff_exists.mp (complete field member)
    refine Engine.askField_passes_iff.mpr ⟨present, there, ?_⟩
    by_cases absent : field.optional = true ∧ present = .none
    · exact .inl absent
    · exact .inr (ih field member present there absent)

/-- **A rule that is ready is passed exactly by the values on which it shows a
    pass.**  By induction on the past: what a rule refers to was registered
    earlier. -/
theorem passes_iff_ask_passes {past : History} {type : FieldType} {rule : Rule} {value : Value}
    {built : Option Validator} (ready : past.engine.buildRule type rule = .ok built) :
    past.Passes type rule value ↔ (past.engine.ask type rule value).Passes := by
  refine ⟨Passes.ask_passes, ?_⟩
  induction shorter : past.length using Nat.strongRecOn
    generalizing past type rule value built with
  | ind length ih =>
    intro asked
    rcases Engine.buildRule_cases ready with
      ⟨factory, arguments, known, other, resolved, builds, -⟩ |
      ⟨arguments, target, known, resolved, found, member, -⟩
    · rw [Engine.ask_eq ready] at asked
      exact .own known other resolved builds asked
    · obtain ⟨earlier, description, registered⟩ := exists_registered member
      rw [Engine.ask_eq_run_of_findRecord known resolved found,
        Engine.run_buildRecord registered.built] at asked
      by_cases isInstance : value.isInstanceOf target.cls = true
      · rw [if_pos isInstance, inOrder_passes_iff] at asked
        refine .nested known resolved found isInstance registered ?_ ?_
        · intro field isField
          obtain ⟨present, there, -⟩ := Engine.askField_passes_iff.mp (asked field isField)
          rw [there]
          rfl
        · intro field isField present there required inner isRule
          obtain ⟨same, isSame, passed⟩ := Engine.askField_passes_iff.mp (asked field isField)
          obtain rfl : same = present := Option.some.inj (isSame.symm.trans there)
          obtain ⟨innerBuilt, innerReady⟩ :=
            (Engine.ready_of_buildRecord registered.built isField).2 inner isRule
          exact ih earlier.length (shorter ▸ registered.length_lt) innerReady rfl
            (passed.resolve_left required inner isRule)
      · rw [if_neg isInstance] at asked
        exact absurd asked (Outcome.not_passes_failed _)

theorem acceptsField_iff_ask_passes {value : Value} {field : FieldDescription}
    (ready : ∀ rule ∈ field.readRules, ∃ built,
      past.engine.buildRule field.fieldType rule = .ok built) :
    past.AcceptsField field value ↔ (field.optional = true ∧ value = .none) ∨
      ∀ rule ∈ field.readRules, (past.engine.ask field.fieldType rule value).Passes := by
  have rules : (∀ rule ∈ field.readRules, past.Passes field.fieldType rule value) ↔
      ∀ rule ∈ field.readRules, (past.engine.ask field.fieldType rule value).Passes := by
    refine forall₂_congr fun rule isRule => ?_
    obtain ⟨built, ruleReady⟩ := ready rule isRule
    exact passes_iff_ask_passes ruleReady
  rw [AcceptsField, rules]

theorem acceptsField_iff_askField_passes {record present : Value} {field : FieldDescription}
    (built : past.engine.buildRecord description = .ok validator)
    (member : field ∈ description.validatedFields)
    (there : record.attribute? field.name = some present) :
    past.AcceptsField field present ↔ (past.engine.askField record field).Passes := by
  rw [Engine.askField_passes_iff, there,
    acceptsField_iff_ask_passes (Engine.ready_of_buildRecord built member).2]
  simp only [Option.some.injEq, exists_eq_left']

theorem run_passes_iff_acceptsField {field : FieldDescription} {validator : Validator}
    (built : past.engine.buildField field = .ok validator) (value : Value) :
    (validator.run value).Passes ↔ past.AcceptsField field value := by
  rw [Engine.run_buildField built,
    acceptsField_iff_ask_passes (Engine.ready_of_buildField built).2, ← FieldDescription.waives_iff]
  cases field.waives value with
  | true => simp [Outcome.passes_passed]
  | false => simp [Outcome.inField_passes_iff, inOrder_passes_iff]

theorem accepts_iff_askField_passes {record : Value}
    (built : past.engine.buildRecord description = .ok validator) :
    past.Accepts description record ↔
      ∀ field ∈ description.validatedFields, (past.engine.askField record field).Passes := by
  refine forall₂_congr fun field member => ?_
  constructor
  · rintro ⟨present, there, accepted⟩
    exact (acceptsField_iff_askField_passes built member there).mp accepted
  · intro passes
    obtain ⟨present, there, -⟩ := Engine.askField_passes_iff.mp passes
    exact ⟨present, there, (acceptsField_iff_askField_passes built member there).mpr passes⟩

/-- **A registered record passes the instances of its class that its description
    accepts**, as its rules read when it was registered. -/
theorem Registered.run_passes_iff (registered : history.Registered past description validator)
    (value : Value) :
    (validator.run value).Passes ↔
      value.isInstanceOf validator.cls = true ∧ past.Accepts description value := by
  rw [Engine.run_buildRecord registered.built, accepts_iff_askField_passes registered.built]
  by_cases isInstance : value.isInstanceOf validator.cls = true
  · rw [if_pos isInstance, inOrder_passes_iff]
    exact ⟨fun passes => ⟨isInstance, passes⟩, fun both => both.2⟩
  · rw [if_neg isInstance]
    constructor
    · intro passes
      exact absurd passes (Outcome.not_passes_failed _)
    · intro both
      exact absurd both.1 isInstance

/-! ### The first refusal -/

/-- The first rule, of the first field of a record, that its value does not pass. -/
structure Refusal (past : History) (description : RecordDescription) (record : Value) where
  accepted : List FieldDescription
  field : FieldDescription
  later : List FieldDescription
  fields_eq : description.validatedFields = accepted ++ field :: later
  accepts : ∀ other ∈ accepted, ∃ present,
    record.attribute? other.name = some present ∧ past.AcceptsField other present
  value : Value
  attribute_eq : record.attribute? field.name = some value
  required : ¬ (field.optional = true ∧ value = .none)
  passed : List Rule
  rule : Rule
  rest : List Rule
  parse_eq : Rule.parse (field.rules.getD "") = .ok (passed ++ rule :: rest)
  passes : ∀ other ∈ passed, past.Passes field.fieldType other value
  refuses : ¬ past.Passes field.fieldType rule value

namespace Refusal

variable {record : Value}

theorem field_mem (refusal : past.Refusal description record) :
    refusal.field ∈ description.validatedFields := by
  rw [refusal.fields_eq]
  exact List.mem_append_right _ List.mem_cons_self

theorem rule_mem (refusal : past.Refusal description record) :
    refusal.rule ∈ refusal.field.readRules := by
  rw [FieldDescription.readRules, refusal.parse_eq]
  exact List.mem_append_right _ List.mem_cons_self

def shown (refusal : past.Refusal description record) : Outcome :=
  past.engine.ask refusal.field.fieldType refusal.rule refusal.value

/-- What the record is told: what the rule shows, attributed to the field, after
    the checks of the fields and rules before it, and no others. -/
def outcome (refusal : past.Refusal description record) : Outcome where
  calls :=
    refusal.accepted.flatMap (fun field => (past.engine.askField record field).calls) ++
      (refusal.passed.flatMap fun rule =>
        (past.engine.ask refusal.field.fieldType rule refusal.value).calls) ++
      refusal.shown.calls
  verdict := (refusal.shown.inField refusal.field.name).verdict

end Refusal

/-- The first field of a record whose attribute is missing, the values of the fields before
    it being accepted. -/
structure Missing (past : History) (description : RecordDescription) (record : Value) where
  accepted : List FieldDescription
  field : FieldDescription
  later : List FieldDescription
  fields_eq : description.validatedFields = accepted ++ field :: later
  accepts : ∀ other ∈ accepted, ∃ present,
    record.attribute? other.name = some present ∧ past.AcceptsField other present
  attribute_eq : record.attribute? field.name = none

namespace Missing

variable {record : Value}

theorem field_mem (missing : past.Missing description record) :
    missing.field ∈ description.validatedFields := by
  rw [missing.fields_eq]
  exact List.mem_append_right _ List.mem_cons_self

/-- What the record is told: that the attribute is missing, after the checks of the fields
    before it. -/
def outcome (missing : past.Missing description record) : Outcome where
  calls := missing.accepted.flatMap fun field => (past.engine.askField record field).calls
  verdict := .error (.missingAttribute record.className missing.field.name)

end Missing

/-- Where a field refuses its value, the first rule decides that the value does
    not pass. -/
theorem exists_first_rule {record value : Value} {field : FieldDescription}
    (built : past.engine.buildRecord description = .ok validator)
    (member : field ∈ description.validatedFields)
    (there : record.attribute? field.name = some value)
    (stops : ¬ (past.engine.askField record field).Passes) :
    ¬ (field.optional = true ∧ value = .none) ∧
      ∃ passed rule rest, Rule.parse (field.rules.getD "") = .ok (passed ++ rule :: rest) ∧
        (∀ other ∈ passed, past.Passes field.fieldType other value) ∧
        ¬ past.Passes field.fieldType rule value ∧
        past.engine.askField record field =
          { calls :=
              passed.flatMap (fun other => (past.engine.ask field.fieldType other value).calls) ++
                (past.engine.ask field.fieldType rule value).calls
            verdict :=
              ((past.engine.ask field.fieldType rule value).inField field.name).verdict } := by
  have required : ¬ (field.optional = true ∧ value = .none) := by
    intro absent
    exact stops ((acceptsField_iff_askField_passes built member there).mp (.inl absent))
  have asked : past.engine.askField record field =
      (inOrder (past.engine.ask field.fieldType · value) field.readRules).inField field.name := by
    rw [← FieldDescription.waives_iff, Bool.not_eq_true] at required
    rw [Engine.askField, there]
    simp [required]
  rw [asked, Outcome.inField_passes_iff] at stops
  obtain ⟨passed, rule, rest, rules, passes, refuses⟩ := Outcome.exists_first_of_not_passes stops
  obtain ⟨parsed, ready⟩ := Engine.ready_of_buildRecord built member
  rw [rules] at parsed ready
  refine ⟨required, passed, rule, rest, parsed, ?_, ?_, ?_⟩
  · intro other isOther
    obtain ⟨otherBuilt, otherReady⟩ := ready other (List.mem_append_left _ isOther)
    exact (passes_iff_ask_passes otherReady).mpr (passes other isOther)
  · intro passesRule
    obtain ⟨ruleBuilt, ruleReady⟩ := ready rule (List.mem_append_right _ List.mem_cons_self)
    exact refuses ((passes_iff_ask_passes ruleReady).mp passesRule)
  · rw [asked, rules, Outcome.inOrder_of_first passes refuses]
    rfl

/-- **Where a record is refused, the first refusal decides**, unless an attribute is
    missing first. -/
theorem Registered.exists_refusal_or_first_missing
    (registered : history.Registered past description validator) {record : Value}
    (isInstance : record.isInstanceOf validator.cls = true)
    (stops : ¬ (validator.run record).Passes) :
    (∃ refusal : past.Refusal description record, validator.run record = refusal.outcome) ∨
      ∃ missing : past.Missing description record, validator.run record = missing.outcome := by
  have built := registered.built
  have run : validator.run record =
      inOrder (past.engine.askField record) description.validatedFields := by
    rw [Engine.run_buildRecord built, if_pos isInstance]
  rw [run] at stops ⊢
  obtain ⟨accepted, field, later, fields, accepts, fieldStops⟩ :=
    Outcome.exists_first_of_not_passes stops
  have member : field ∈ description.validatedFields := by
    rw [fields]
    exact List.mem_append_right _ List.mem_cons_self
  have acceptsBefore : ∀ other ∈ accepted, ∃ present,
      record.attribute? other.name = some present ∧ past.AcceptsField other present := by
    intro other isOther
    have otherMember : other ∈ description.validatedFields := by
      rw [fields]
      exact List.mem_append_left _ isOther
    obtain ⟨present, otherThere, -⟩ := Engine.askField_passes_iff.mp (accepts other isOther)
    exact ⟨present, otherThere,
      (acceptsField_iff_askField_passes built otherMember otherThere).mpr (accepts other isOther)⟩
  have decided : inOrder (past.engine.askField record) (accepted ++ field :: later) = _ :=
    Outcome.inOrder_of_first accepts fieldStops
  rw [← fields] at decided
  cases there : record.attribute? field.name with
  | none =>
    have asked : past.engine.askField record field =
        { verdict := .error (.missingAttribute record.className field.name) } := by
      rw [Engine.askField, there]
    rw [asked, List.append_nil] at decided
    exact .inr ⟨{
      accepted := accepted, field := field, later := later, fields_eq := fields
      accepts := acceptsBefore, attribute_eq := there }, decided⟩
  | some value =>
    obtain ⟨required, passed, rule, rest, parsed, passes, refuses, asked⟩ :=
      exists_first_rule built member there fieldStops
    rw [asked, ← List.append_assoc] at decided
    exact .inl ⟨{
      accepted := accepted, field := field, later := later, fields_eq := fields
      value := value, attribute_eq := there, required := required
      passed := passed, rule := rule, rest := rest, parse_eq := parsed
      accepts := acceptsBefore, passes := passes, refuses := refuses }, decided⟩

/-- A record that is refused is refused by a rule, or lacks an attribute. -/
theorem Registered.exists_refusal_or_missing
    (registered : history.Registered past description validator) {record : Value}
    (isInstance : record.isInstanceOf validator.cls = true)
    (stops : ¬ (validator.run record).Passes) :
    (∃ refusal : past.Refusal description record, validator.run record = refusal.outcome) ∨
      ∃ field ∈ description.validatedFields, record.attribute? field.name = none ∧
        (validator.run record).verdict =
          .error (.missingAttribute record.className field.name) := by
  rcases registered.exists_refusal_or_first_missing isInstance stops with
    refused | ⟨missing, run⟩
  · exact .inl refused
  · refine .inr ⟨missing.field, missing.field_mem, missing.attribute_eq, ?_⟩
    rw [run]
    rfl

/-! ### Validating -/

theorem registered_of_record? {cls : RecordClass}
    (found : history.engine.record? cls = some validator) :
    ∃ past description, history.Registered past description validator :=
  exists_registered (List.mem_of_find?_eq_some found)

theorem isInstanceOf_of_record? {cls : RecordClass}
    (found : history.engine.record? cls = some validator) (attributes : List (String × Value)) :
    (Value.record cls attributes).isInstanceOf validator.cls = true := by
  have same := List.find?_some found
  have same : validator.cls.id = cls.id := beq_iff_eq.mp same
  rw [Value.isInstanceOf, same, beq_self_eq_true, Bool.true_or]

theorem validate_of_record? {cls : RecordClass} {attributes : List (String × Value)}
    (found : history.engine.record? cls = some validator) :
    history.engine.validate (.record cls attributes) =
      .ok (validator.run (.record cls attributes)) := by
  rw [Engine.validate, Engine.validatorOf, found]
  rfl

/-- **Validating a record is reading its rules**, as they read when its class was
    registered.  A record with all attributes passes if and only if each value may be
    absent and is, or passes all rules of its field.  Otherwise the first rule
    decides that a value does not pass, of the first field with such a value: what it
    shows is what the record is told, attributed to the field, and no rule after it
    has run. -/
theorem validate_reads_rules {history : History} {cls : RecordClass} {validator : RecordValidator}
    (found : history.engine.record? cls = some validator) {attributes : List (String × Value)}
    (complete : ∀ name ∈ validator.fieldNames, (attributes.lookup name).isSome) :
    ∃ past description outcome, history.Registered past description validator ∧
      history.engine.validate (.record cls attributes) = .ok outcome ∧
      (∀ field ∈ description.validatedFields,
        Rule.parse (field.rules.getD "") = .ok field.readRules) ∧
      (outcome.verdict = .ok none ↔ ∀ field ∈ description.validatedFields, ∀ value,
        attributes.lookup field.name = some value →
          (field.optional = true ∧ value = .none) ∨
            ∀ rule ∈ field.readRules, past.Passes field.fieldType rule value) ∧
      (outcome.verdict ≠ .ok none →
        ∃ refusal : past.Refusal description (.record cls attributes),
          outcome = refusal.outcome) := by
  obtain ⟨past, description, registered⟩ := registered_of_record? found
  have isInstance := isInstanceOf_of_record? found attributes
  have there : ∀ field ∈ description.validatedFields, (attributes.lookup field.name).isSome := by
    intro field member
    refine complete field.name ?_
    rw [Engine.fieldNames_of_buildRecord registered.built]
    exact List.mem_map_of_mem member
  refine ⟨past, description, _, registered, validate_of_record? found, ?_, ?_, ?_⟩
  · intro field member
    exact (Engine.ready_of_buildRecord registered.built member).1
  · have accepted := registered.run_passes_iff (Value.record cls attributes)
    constructor
    · intro passes field member value isValue
      obtain ⟨present, isPresent, accepts⟩ := (accepted.mp passes).2 field member
      obtain rfl : present = value := Option.some.inj (isPresent.symm.trans isValue)
      exact accepts
    · intro accepts
      refine accepted.mpr ⟨isInstance, fun field member => ?_⟩
      obtain ⟨value, isValue⟩ := Option.isSome_iff_exists.mp (there field member)
      exact ⟨value, isValue, accepts field member value isValue⟩
  · intro stops
    rcases registered.exists_refusal_or_missing isInstance stops with
      refused | ⟨field, member, missing, -⟩
    · exact refused
    · have present := there field member
      rw [show attributes.lookup field.name = none from missing] at present
      cases present

theorem verdict_of_validate {engine : Engine} {value : Value} {outcome : Outcome}
    {verdict : Verdict} (validated : engine.validate value = .ok outcome)
    (shown : (engine.validate value).toOption.map (·.verdict) = some verdict) :
    outcome.verdict = verdict := by
  rw [validated] at shown
  exact Option.some.inj shown

theorem exists_fieldNames_residents :
    ∃ validator, residents.engine.record? personClass = some validator ∧
      validator.fieldNames = ["home"] :=
  Option.map_eq_some_iff.mp (by decide +kernel)

/-- A person whose floor is below the first one is refused by the rule about the address. -/
theorem validate_reads_rules_of_low_floor :
    ∃ (past : History) (description : RecordDescription),
      ∃ refusal : past.Refusal description (.record personClass (livingOn 0)),
      residents.engine.validate (.record personClass (livingOn 0)) = .ok refusal.outcome ∧
      refusal.outcome.verdict =
        .ok (some { cause := .below 0 1, fieldName := "home", path := ["home", "floor"] }) := by
  obtain ⟨validator, found, names⟩ := exists_fieldNames_residents
  have complete : ∀ name ∈ validator.fieldNames, ((livingOn 0).lookup name).isSome := by
    rw [names]
    decide +kernel
  obtain ⟨past, description, outcome, -, validated, -, -, refuses⟩ :=
    validate_reads_rules found complete
  have verdict : outcome.verdict =
      .ok (some { cause := .below 0 1, fieldName := "home", path := ["home", "floor"] }) :=
    verdict_of_validate validated (by decide +kernel)
  have stops : outcome.verdict ≠ .ok none := by
    rw [verdict]
    nofun
  obtain ⟨refusal, rfl⟩ := refuses stops
  exact ⟨past, description, refusal, validated, verdict⟩

/-- A person with all attributes whose address lacks one is neither let pass nor
    refused with a failure: the run breaks off inside. -/
theorem validate_breaks_off_inside :
    ∃ validator outcome, residents.engine.record? personClass = some validator ∧
      (∀ name ∈ validator.fieldNames, (List.lookup name
        [("home", Value.record addressClass [])]).isSome) ∧
      residents.engine.validate (.record personClass [("home", .record addressClass [])]) =
        .ok outcome ∧
      outcome.verdict = .error (.missingAttribute "Address" "floor") ∧
      outcome.verdict ≠ .ok none ∧ ∀ failure, outcome.verdict ≠ .ok (some failure) := by
  obtain ⟨validator, found, names⟩ := exists_fieldNames_residents
  have validated : residents.engine.validate
      (.record personClass [("home", .record addressClass [])]) =
        .ok (validator.run (.record personClass [("home", .record addressClass [])])) :=
    validate_of_record? found
  have verdict : (validator.run (.record personClass [("home", .record addressClass [])])).verdict =
      .error (.missingAttribute "Address" "floor") :=
    verdict_of_validate validated (by decide +kernel)
  refine ⟨validator, _, found, ?_, validated, verdict, ?_, ?_⟩
  · rw [names]
    decide +kernel
  · rw [verdict]
    nofun
  · intro failure
    rw [verdict]
    nofun

end History

end FieldRules
