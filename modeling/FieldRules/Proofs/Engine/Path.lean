/-
  FieldRules/Proofs/Engine/Path.lean
  ==================================
  **The path of a failure leads to the value that failed.**

  A failure gets the name of a field at every record that it passes on its way
  out, in front of the names it has.  `Leads` reads the names the other way, from
  the outermost record down: at each record the field is the first that refuses
  its value, and the rule about nested records that refuses it stands between one
  name and the next.  At the end is the rule whose cause the failure has.

  The checks that an application brings along must leave the path to the engine.
  The proof goes by the history, as a record refers to earlier ones.
-/
import FieldRules.Proofs.Engine.Reading
import FieldRules.Proofs.Validator.Nesting

namespace FieldRules

def Value.follow : Value → List String → Option Value
  | value, [] => some value
  | value, name :: rest => (value.attribute? name).bind (·.follow rest)

namespace Engine

variable {engine : Engine} {description : RecordDescription} {validator : RecordValidator}

/-- What an application brings along for a rule of a record is a check of the record. -/
theorem mem_checks_of_buildRule (built : engine.buildRecord description = .ok validator)
    {field : FieldDescription} (member : field ∈ description.validatedFields) {rule : Rule}
    (isRule : rule ∈ field.readRules) {judge : Value → Outcome}
    (ready : engine.buildRule field.fieldType rule = .ok (some (.custom judge))) :
    judge ∈ validator.checks := by
  obtain ⟨entry, isEntry, -, fieldBuilt⟩ :=
    exists_right_of_forall₂ (buildRecord_eq_ok_iff.mp built).2 member
  obtain ⟨rules, validators, read, rulesReady, shape⟩ := buildField_eq_ok_iff.mp fieldBuilt
  rw [FieldDescription.readRules, read] at isRule
  obtain ⟨other, isOther, otherReady⟩ :=
    exists_right_of_forall₂ (buildRules_eq_ok_iff.mp rulesReady) isRule
  obtain rfl : other = some (.custom judge) := Except.ok.inj (otherReady.symm.trans ready)
  have inChain : judge ∈ (Validator.chain validators).checks := by
    rw [Validator.checks_chain]
    exact List.mem_flatMap.mpr ⟨_, isOther, List.mem_cons_self⟩
  refine List.mem_flatMap.mpr ⟨entry, isEntry, ?_⟩
  rw [← shape]
  cases field.optional with
  | false => exact inChain
  | true => exact inChain

end Engine

namespace History

variable {history past : History} {description : RecordDescription} {validator : RecordValidator}

/-- Read from a record on, the names lead to a value that is refused for the cause.
    The first name is that of the field that the record is refused for.  It is the
    last one where the rule itself refuses the value.  Otherwise the rule refers to
    a record that was registered earlier, the value is an instance of it, and the
    other names lead on from there, by the description of that record. -/
inductive Leads :
    History → RecordDescription → Value → List String → Value → FailureCause → Prop
  | here {past : History} {description : RecordDescription} {record : Value}
      (refusal : past.Refusal description record) {failure : Failure}
      (shows : refusal.shown.verdict = .ok (some failure)) (bare : failure.path = []) :
      Leads past description record [refusal.field.name] refusal.value failure.cause
  | into {past earlier : History} {description inner : RecordDescription} {record value : Value}
      (refusal : past.Refusal description record) {arguments : RuleArguments}
      {target : RecordValidator} {path : List String} {cause : FailureCause}
      (known : past.engine.factory refusal.rule.name = .ok (.builtin .record))
      (resolved : past.engine.resolve refusal.field.fieldType refusal.rule = .ok arguments)
      (found : Builtin.findRecord arguments = .ok target)
      (isInstance : refusal.value.isInstanceOf target.cls = true)
      (registered : past.Registered earlier inner target)
      (leads : Leads earlier inner refusal.value path value cause) :
      Leads past description record (refusal.field.name :: path) value cause

theorem Leads.follow_eq {record value : Value} {path : List String} {cause : FailureCause}
    (leads : past.Leads description record path value cause) :
    record.follow path = some value := by
  induction leads with
  | here refusal shows bare =>
    rw [Value.follow, refusal.attribute_eq]
    rfl
  | into refusal known resolved found isInstance registered leads ih =>
    rw [Value.follow, refusal.attribute_eq]
    exact ih

/-- The checks of the application give failures without a path. -/
def Untagged (history : History) : Prop :=
  ∀ validator ∈ history.engine.records, ∀ judge ∈ validator.checks, ∀ value failure,
    (judge value).verdict = .ok (some failure) → failure.path = []

theorem Registered.mem_records (registered : history.Registered past description validator) :
    validator ∈ history.engine.records :=
  registered.records_isPrefix.subset (List.mem_append_right _ List.mem_cons_self)

theorem Registered.untagged (registered : history.Registered past description validator)
    (untagged : history.Untagged) : past.Untagged := by
  intro other isOther
  exact untagged other (registered.records_isPrefix.subset (List.mem_append_left _ isOther))

/-- A rule that does not look into records gives failures without a path. -/
theorem path_eq_nil_of_plain (registered : history.Registered past description validator)
    (untagged : history.Untagged) {field : FieldDescription}
    (member : field ∈ description.validatedFields) {rule : Rule} (isRule : rule ∈ field.readRules)
    {built : Option Validator} (ready : past.engine.buildRule field.fieldType rule = .ok built)
    (isPlain : Engine.Plain built) {value : Value} {failure : Failure}
    (failed : (past.engine.ask field.fieldType rule value).verdict = .ok (some failure)) :
    failure.path = [] := by
  rw [Engine.ask_eq ready] at failed
  cases isPlain with
  | none => cases failed
  | test what => exact (Test.bare_of_run failed).2
  | custom judge =>
    have isCheck := Engine.mem_checks_of_buildRule registered.built member isRule ready
    exact untagged validator registered.mem_records judge isCheck value failure failed

/-- **The path leads to the value that failed**, and begins with the name of the
    field.  By induction on the past. -/
theorem Registered.leads (registered : history.Registered past description validator)
    (untagged : history.Untagged) {record : Value}
    (isInstance : record.isInstanceOf validator.cls = true) {failure : Failure}
    (failed : (validator.run record).verdict = .ok (some failure)) :
    failure.path.head? = some failure.fieldName ∧
      ∃ value, past.Leads description record failure.path value failure.cause := by
  induction shorter : past.length using Nat.strongRecOn
    generalizing history past description validator record failure with
  | ind length ih =>
    have stops : ¬ (validator.run record).Passes := by
      intro passes
      rw [Outcome.Passes, failed] at passes
      cases passes
    rcases registered.exists_refusal_or_missing isInstance stops with
      ⟨refusal, run⟩ | ⟨field, -, -, broken⟩
    · rw [run] at failed
      obtain ⟨inner, shows, rfl⟩ := Outcome.inField_verdict_eq_failure_iff.mp failed
      refine ⟨rfl, ?_⟩
      obtain ⟨built, ready⟩ :=
        (Engine.ready_of_buildRecord registered.built refusal.field_mem).2 _ refusal.rule_mem
      rcases Engine.buildRule_cases ready with
        ⟨factory, arguments, -, -, -, -, isPlain⟩ |
        ⟨arguments, target, known, resolved, found, member, -⟩
      · have bare : inner.path = [] :=
          path_eq_nil_of_plain registered untagged refusal.field_mem refusal.rule_mem ready isPlain
            shows
        have leads : past.Leads description record [refusal.field.name] refusal.value inner.cause :=
          .here refusal shows bare
        rw [Failure.inField, bare]
        exact ⟨refusal.value, leads⟩
      · obtain ⟨earlier, innerDescription, innerRegistered⟩ := exists_registered member
        have shown : refusal.shown = target.run refusal.value :=
          Engine.ask_eq_run_of_findRecord known resolved found refusal.value
        by_cases isInner : refusal.value.isInstanceOf target.cls = true
        · have innerFailed : (target.run refusal.value).verdict = .ok (some inner) := by
            rw [← shown]
            exact shows
          obtain ⟨-, value, leads⟩ := ih earlier.length (shorter ▸ innerRegistered.length_lt)
            innerRegistered (registered.untagged untagged) isInner innerFailed rfl
          exact ⟨value, .into refusal known resolved found isInner innerRegistered leads⟩
        · have otherClass : inner.path = [] := by
            have refused := shows
            rw [shown, RecordValidator.run_eq, if_neg isInner] at refused
            cases refused
            rfl
          have leads :
              past.Leads description record [refusal.field.name] refusal.value inner.cause :=
            .here refusal shows otherClass
          rw [Failure.inField, otherClass]
          exact ⟨refusal.value, leads⟩
    · rw [broken] at failed
      cases failed

/-- **The path of a failure leads to the value that failed.**  If the checks of the
    application leave the path alone, the path of a failure that a record is told
    begins with the field it is attributed to.  Followed from the record on, it leads
    through the records that rules refer to, and reaches the value whose first
    refusing rule gave the cause of the failure, hence its code and its reason. -/
theorem path_leads_to_value {history : History} (untagged : history.Untagged) {cls : RecordClass}
    {validator : RecordValidator} (found : history.engine.record? cls = some validator)
    {attributes : List (String × Value)} {outcome : Outcome} {failure : Failure}
    (validated : history.engine.validate (.record cls attributes) = .ok outcome)
    (failed : outcome.verdict = .ok (some failure)) :
    ∃ past description value, history.Registered past description validator ∧
      failure.path.head? = some failure.fieldName ∧
      (Value.record cls attributes).follow failure.path = some value ∧
      past.Leads description (.record cls attributes) failure.path value failure.cause := by
  obtain ⟨past, description, registered⟩ := registered_of_record? found
  have isInstance := isInstanceOf_of_record? found attributes
  rw [validate_of_record? found] at validated
  cases validated
  obtain ⟨begins, value, leads⟩ := registered.leads untagged isInstance failed
  exact ⟨past, description, value, registered, begins, leads.follow_eq, leads⟩

/-- The name of the home leads to the address, and that of the floor to the number. -/
theorem path_leads_to_low_floor :
    residents.Untagged ∧ ∃ past description,
      Leads past description (.record personClass (livingOn 0)) ["home", "floor"] (.integer 0)
        (.below 0 1) := by
  have noChecks : ∀ validator ∈ residents.engine.records, validator.checks.isEmpty :=
    List.all_eq_true.mp (by decide +kernel)
  have untagged : residents.Untagged := by
    intro validator member judge isCheck
    rw [List.isEmpty_iff.mp (noChecks validator member)] at isCheck
    cases isCheck
  obtain ⟨validator, found, -⟩ := exists_fieldNames_residents
  have validated : residents.engine.validate (.record personClass (livingOn 0)) =
      .ok (validator.run (.record personClass (livingOn 0))) :=
    validate_of_record? found
  have failed : (validator.run (.record personClass (livingOn 0))).verdict =
      .ok (some { cause := .below 0 1, fieldName := "home", path := ["home", "floor"] }) :=
    verdict_of_validate validated (by decide +kernel)
  obtain ⟨past, description, value, -, -, followed, leads⟩ :=
    path_leads_to_value untagged found validated failed
  obtain rfl : .integer 0 = value := Option.some.inj followed
  exact ⟨untagged, past, description, leads⟩

end History

end FieldRules
