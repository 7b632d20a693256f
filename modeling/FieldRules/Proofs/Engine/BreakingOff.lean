/-
  FieldRules/Proofs/Engine/BreakingOff.lean
  =========================================
  **When validating breaks off: exactly at numerals that are too long, and at
  records that lack an attribute.**

  With the built-in rules alone, a run on a record with all attributes ends with
  a verdict, but for two cases.  A rule that compares numbers breaks it off on a
  text of digits that are too many to be read, and a rule about nested records
  breaks it off where such a record lacks an attribute.  Either may happen deep
  inside, and only where the run arrives: all that stands before it is passed.
  `BreaksOff` says this of a rule by the history, as `Passes` says what it is to
  pass one.
-/
import FieldRules.Proofs.Engine.Builtins
import FieldRules.Proofs.Engine.Path
import FieldRules.Proofs.Engine.Frozen
import FieldRules.Proofs.Validator.Numbers

namespace FieldRules

open Outcome (inOrder inOrder_of_first)

/-! ### Histories with the built-in rules alone -/

/-- Whether an operation registers a factory that an application brings along. -/
def Operation.bringsFactory : Operation → Bool
  | registerRule _ (.factory (.custom _)) => true
  | _ => false

namespace Engine

variable {engine : Engine}

theorem OnlyBuiltins.afterwards {α : Type} {next : α → Engine} {result : Except Error α}
    (only : engine.OnlyBuiltins) (kept : ∀ value, result = .ok value → (next value).OnlyBuiltins) :
    (engine.afterwards next result).OnlyBuiltins := by
  cases result with
  | error error => exact only
  | ok value => exact kept value rfl

/-- **No operation brings a factory in, but one that is handed over.** -/
theorem OnlyBuiltins.perform (only : engine.OnlyBuiltins) {operation : Operation}
    (plain : operation.bringsFactory = false) : (engine.perform operation).OnlyBuiltins := by
  cases operation with
  | registerRule name candidate =>
    refine only.afterwards fun result done => ?_
    obtain ⟨known, factory, rfl, rfl⟩ := registerRule_eq_ok done
    cases factory with
    | builtin rule => exact only.setFactory known rule
    | custom factory => cases plain
  | deregisterRule name =>
    refine only.afterwards fun next done => ?_
    rw [deregisterRule_eq_ok done]
    exact only.erase name
  | registerInteger name value =>
    refine only.afterwards fun result done => ?_
    obtain ⟨constants, same⟩ := registerInteger_eq_ok done
    rw [same]
    exact only.of_factories rfl
  | registerString name value =>
    refine only.afterwards fun result done => ?_
    obtain ⟨constants, same⟩ := registerString_eq_ok done
    rw [same]
    exact only.of_factories rfl
  | loadConstants path read =>
    obtain ⟨constants, same⟩ := engine.exists_loadConstants_eq path read
    have kept := congrArg Engine.factories same
    exact only.of_factories kept
  | registerRecord subject =>
    refine only.afterwards fun registration done => ?_
    rcases registerRecord_eq_ok_iff.mp done with ⟨_, _, rfl⟩ | ⟨_, _, _, _, _, rfl⟩
    · exact only
    · exact only.of_factories rfl
  | compile rules type name => exact only
  | validate value => exact only

end Engine

namespace History

variable {history past earlier : History} {description : RecordDescription}
  {validator : RecordValidator} {type : FieldType} {rule : Rule} {value record : Value}
  {fault : RunFault}

/-- In the whole history no rule was brought along by an application. -/
def OnlyBuiltins : History → Prop
  | start _ => True
  | next past operation => past.OnlyBuiltins ∧ operation.bringsFactory = false

theorem OnlyBuiltins.engine (only : history.OnlyBuiltins) : history.engine.OnlyBuiltins := by
  induction history with
  | start builtins => exact Engine.onlyBuiltins_create builtins
  | next past operation ih => exact (ih only.1).perform only.2

theorem Registered.onlyBuiltins (registered : history.Registered past description validator)
    (only : history.OnlyBuiltins) : past.OnlyBuiltins := by
  induction registered with
  | now subject described fresh built => exact only.1
  | before operation _ ih => exact ih only.1

theorem Reaches.onlyBuiltins (reaches : earlier.Reaches history) (only : history.OnlyBuiltins) :
    earlier.OnlyBuiltins := by
  induction reaches with
  | refl => exact only
  | next operation _ ih => exact ih only.1

/-! ### What a refused record is told -/

/-- Fields in front of which nothing stops a run let it pass. -/
theorem Registered.askField_passes_of_accepts
    (registered : history.Registered past description validator)
    {accepted rest : List FieldDescription} (fields : description.validatedFields = accepted ++ rest)
    (accepts : ∀ other ∈ accepted, ∃ present,
      record.attribute? other.name = some present ∧ past.AcceptsField other present) :
    ∀ other ∈ accepted, (past.engine.askField record other).Passes := by
  intro other isOther
  have member : other ∈ description.validatedFields := by
    rw [fields]
    exact List.mem_append_left _ isOther
  obtain ⟨present, there, accepted⟩ := accepts other isOther
  exact (acceptsField_iff_askField_passes registered.built member there).mp accepted

/-- **The first refusal decides**, whichever way it was found. -/
theorem Registered.run_of_refusal (registered : history.Registered past description validator)
    (isInstance : record.isInstanceOf validator.cls = true)
    (refusal : past.Refusal description record) : validator.run record = refusal.outcome := by
  have accepts := registered.askField_passes_of_accepts refusal.fields_eq refusal.accepts
  obtain ⟨built, ready⟩ :=
    (Engine.ready_of_buildRecord registered.built refusal.field_mem).2 _ refusal.rule_mem
  have passes : ∀ other ∈ refusal.passed,
      (past.engine.ask refusal.field.fieldType other refusal.value).Passes :=
    fun other isOther => (refusal.passes other isOther).ask_passes
  have refuses : ¬ refusal.shown.Passes := by
    intro passed
    exact refusal.refuses ((passes_iff_ask_passes ready).mpr passed)
  have asked : past.engine.askField record refusal.field =
      { calls :=
          (refusal.passed.flatMap fun rule =>
            (past.engine.ask refusal.field.fieldType rule refusal.value).calls) ++
              refusal.shown.calls
        verdict := (refusal.shown.inField refusal.field.name).verdict } := by
    have required := refusal.required
    rw [← FieldDescription.waives_iff] at required
    have rules : refusal.field.readRules = refusal.passed ++ refusal.rule :: refusal.rest := by
      rw [FieldDescription.readRules, refusal.parse_eq]
    rw [Engine.askField, refusal.attribute_eq]
    dsimp only
    rw [if_neg required, rules, inOrder_of_first passes refuses]
    rfl
  have stops : ¬ (past.engine.askField record refusal.field).Passes := by
    rw [asked]
    intro passed
    exact refuses (Outcome.inField_passes_iff.mp passed)
  rw [Engine.run_buildRecord registered.built, if_pos isInstance, refusal.fields_eq,
    inOrder_of_first accepts stops, asked, ← List.append_assoc]
  rfl

theorem Registered.run_of_missing (registered : history.Registered past description validator)
    (isInstance : record.isInstanceOf validator.cls = true)
    (missing : past.Missing description record) : validator.run record = missing.outcome := by
  have accepts := registered.askField_passes_of_accepts missing.fields_eq missing.accepts
  have asked : past.engine.askField record missing.field =
      { verdict := .error (.missingAttribute record.className missing.field.name) } := by
    rw [Engine.askField, missing.attribute_eq]
  have stops : ¬ (past.engine.askField record missing.field).Passes := by
    rw [asked]
    intro passes
    cases passes
  rw [Engine.run_buildRecord registered.built, if_pos isInstance, missing.fields_eq,
    inOrder_of_first accepts stops, asked, List.append_nil]
  rfl

/-- **A run on a record breaks off** where its first refusing rule does, or at the first
    attribute that is missing. -/
theorem Registered.run_verdict_eq_error_iff
    (registered : history.Registered past description validator)
    (isInstance : record.isInstanceOf validator.cls = true) :
    (validator.run record).verdict = .error fault ↔
      (∃ refusal : past.Refusal description record, refusal.shown.verdict = .error fault) ∨
        ∃ missing : past.Missing description record,
          fault = .missingAttribute record.className missing.field.name := by
  constructor
  · intro broken
    have stops : ¬ (validator.run record).Passes := by
      intro passes
      cases passes.symm.trans broken
    rcases registered.exists_refusal_or_first_missing isInstance stops with
      ⟨refusal, run⟩ | ⟨missing, run⟩
    · rw [run] at broken
      exact .inl ⟨refusal, Outcome.inField_verdict_eq_error_iff.mp broken⟩
    · rw [run] at broken
      cases broken
      exact .inr ⟨missing, rfl⟩
  · rintro (⟨refusal, broken⟩ | ⟨missing, rfl⟩)
    · rw [registered.run_of_refusal isInstance refusal]
      exact Outcome.inField_verdict_eq_error_iff.mpr broken
    · rw [registered.run_of_missing isInstance missing]
      rfl

/-! ### Where a run breaks off -/

/-- A rule, as it reads when a past has passed, breaks a run off on a value.  A rule that
    compares numbers does so on a numeral that is too long.  A rule about nested records
    does so on an instance of the record it refers to of which an attribute is missing, or
    the first refusing rule breaks the run off, by the description of that record, as its
    rules read when it was registered. -/
inductive BreaksOff : History → FieldType → Rule → Value → RunFault → Prop
  | numeral {past : History} {type : FieldType} {rule : Rule} {value : Value} {builtin : Builtin}
      {digits : Nat} (known : past.engine.factory rule.name = .ok (.builtin builtin))
      (compares : builtin.comparesNumbers = true) (tooLong : value.IsTooLongNumeral digits) :
      BreaksOff past type rule value (.numeralTooLong digits)
  | missing {past earlier : History} {type : FieldType} {rule : Rule} {value : Value}
      {arguments : RuleArguments} {target : RecordValidator} {description : RecordDescription}
      (known : past.engine.factory rule.name = .ok (.builtin .record))
      (resolved : past.engine.resolve type rule = .ok arguments)
      (found : Builtin.findRecord arguments = .ok target)
      (isInstance : value.isInstanceOf target.cls = true)
      (registered : past.Registered earlier description target)
      (missing : earlier.Missing description value) :
      BreaksOff past type rule value (.missingAttribute value.className missing.field.name)
  | inside {past earlier : History} {type : FieldType} {rule : Rule} {value : Value}
      {arguments : RuleArguments} {target : RecordValidator} {description : RecordDescription}
      {fault : RunFault}
      (known : past.engine.factory rule.name = .ok (.builtin .record))
      (resolved : past.engine.resolve type rule = .ok arguments)
      (found : Builtin.findRecord arguments = .ok target)
      (isInstance : value.isInstanceOf target.cls = true)
      (registered : past.Registered earlier description target)
      (refusal : earlier.Refusal description value)
      (breaks : BreaksOff earlier refusal.field.fieldType refusal.rule refusal.value fault) :
      BreaksOff past type rule value fault

/-- A rule that is ready and breaks the run off shows so. -/
theorem BreaksOff.ask_verdict (breaks : past.BreaksOff type rule value fault)
    {built : Option Validator} (ready : past.engine.buildRule type rule = .ok built) :
    (past.engine.ask type rule value).verdict = .error fault := by
  induction breaks generalizing built with
  | numeral known compares tooLong =>
    obtain ⟨factory, arguments, isFactory, -, builds⟩ := Engine.buildRule_eq_ok_iff.mp ready
    cases known.symm.trans isFactory
    obtain ⟨validator, tested, rfl⟩ := map_eq_ok_iff.mp builds
    rename_i builtin _
    have plain : builtin ≠ .record := by
      rintro rfl
      cases compares
    rw [Engine.ask_eq ready]
    exact (run_eq_error_iff plain tested).mpr ⟨compares, _, tooLong, rfl⟩
  | missing known resolved found isInstance registered missing =>
    rw [Engine.ask_eq_run_of_findRecord known resolved found]
    exact (registered.run_verdict_eq_error_iff isInstance).mpr (.inr ⟨missing, rfl⟩)
  | inside known resolved found isInstance registered refusal breaks ih =>
    obtain ⟨inner, innerReady⟩ :=
      (Engine.ready_of_buildRecord registered.built refusal.field_mem).2 _ refusal.rule_mem
    rw [Engine.ask_eq_run_of_findRecord known resolved found]
    exact (registered.run_verdict_eq_error_iff isInstance).mpr (.inl ⟨refusal, ih innerReady⟩)

/-- **A rule that breaks a run off does so for one of the reasons**, if the built-in rules
    are the only ones.  By induction on the past. -/
theorem breaksOff_of_ask_verdict (only : past.OnlyBuiltins) {built : Option Validator}
    (ready : past.engine.buildRule type rule = .ok built)
    (broken : (past.engine.ask type rule value).verdict = .error fault) :
    past.BreaksOff type rule value fault := by
  induction shorter : past.length using Nat.strongRecOn
    generalizing past type rule value built with
  | ind length ih =>
    rcases Engine.buildRule_cases ready with
      ⟨factory, arguments, known, other, resolved, builds, -⟩ |
      ⟨arguments, target, known, resolved, found, member, -⟩
    · obtain ⟨builtin, rfl⟩ := only.engine _ _ known
      obtain ⟨tested, builtTest, rfl⟩ := map_eq_ok_iff.mp builds
      have plain : builtin ≠ .record := fun same => other (congrArg Factory.builtin same)
      rw [Engine.ask_eq ready] at broken
      obtain ⟨compares, digits, tooLong, rfl⟩ := (run_eq_error_iff plain builtTest).mp broken
      exact .numeral known compares tooLong
    · -- the record that the rule refers to was registered when less had passed
      obtain ⟨earlier, description, registered⟩ := exists_registered member
      rw [Engine.ask_eq_run_of_findRecord known resolved found] at broken
      by_cases isInstance : value.isInstanceOf target.cls = true
      · rcases (registered.run_verdict_eq_error_iff isInstance).mp broken with
          ⟨refusal, innerBroken⟩ | ⟨missing, rfl⟩
        · obtain ⟨inner, innerReady⟩ :=
            (Engine.ready_of_buildRecord registered.built refusal.field_mem).2 _ refusal.rule_mem
          exact .inside known resolved found isInstance registered refusal
            (ih earlier.length (shorter ▸ registered.length_lt) (registered.onlyBuiltins only)
              innerReady innerBroken rfl)
        · exact .missing known resolved found isInstance registered missing
      · rw [Engine.run_buildRecord registered.built, if_neg isInstance] at broken
        cases broken

theorem ask_verdict_eq_error_iff (only : past.OnlyBuiltins) {built : Option Validator}
    (ready : past.engine.buildRule type rule = .ok built) :
    (past.engine.ask type rule value).verdict = .error fault ↔
      past.BreaksOff type rule value fault :=
  ⟨breaksOff_of_ask_verdict only ready, fun breaks => breaks.ask_verdict ready⟩

/-! ### Fields and records -/

/-- A field breaks a run off on a value: it does not waive its rules, and the first rule
    that the value does not pass breaks the run off. -/
def FieldBreaksOff (past : History) (field : FieldDescription) (value : Value)
    (fault : RunFault) : Prop :=
  ¬ (field.optional = true ∧ value = .none) ∧
    ∃ passed rule rest, Rule.parse (field.rules.getD "") = .ok (passed ++ rule :: rest) ∧
      (∀ other ∈ passed, past.Passes field.fieldType other value) ∧
      past.BreaksOff field.fieldType rule value fault

theorem run_buildField_eq_error_iff (only : past.OnlyBuiltins) {field : FieldDescription}
    {validator : Validator} (built : past.engine.buildField field = .ok validator) :
    (validator.run value).verdict = .error fault ↔ past.FieldBreaksOff field value fault := by
  obtain ⟨read, ready⟩ := Engine.ready_of_buildField built
  rw [Engine.run_buildField built, FieldBreaksOff, ← FieldDescription.waives_iff]
  by_cases waives : field.waives value = true
  · rw [if_pos waives]
    exact iff_of_false nofun fun both => both.1 waives
  rw [if_neg waives, Outcome.inField_verdict_eq_error_iff, Outcome.inOrder_verdict_eq_error_iff]
  constructor
  · rintro ⟨passed, rule, rest, rules, passes, broken⟩
    rw [rules] at read ready
    refine ⟨waives, passed, rule, rest, read, fun other isOther => ?_, ?_⟩
    · obtain ⟨otherBuilt, otherReady⟩ := ready other (List.mem_append_left _ isOther)
      exact (passes_iff_ask_passes otherReady).mpr (passes other isOther)
    · obtain ⟨ruleBuilt, ruleReady⟩ := ready rule (List.mem_append_right _ List.mem_cons_self)
      exact breaksOff_of_ask_verdict only ruleReady broken
  · rintro ⟨-, passed, rule, rest, parsed, passes, breaks⟩
    have rules := Except.ok.inj (read.symm.trans parsed)
    rw [rules] at ready ⊢
    obtain ⟨ruleBuilt, ruleReady⟩ := ready rule (List.mem_append_right _ List.mem_cons_self)
    exact ⟨passed, rule, rest, rfl, fun other isOther => (passes other isOther).ask_passes,
      breaks.ask_verdict ruleReady⟩

/-- **A complete record breaks a run off** where the rule does that refuses it first. -/
theorem Registered.run_eq_error_iff_of_complete
    (registered : history.Registered past description validator) (only : history.OnlyBuiltins)
    (isInstance : record.isInstanceOf validator.cls = true)
    (complete : ∀ field ∈ description.validatedFields, (record.attribute? field.name).isSome) :
    (validator.run record).verdict = .error fault ↔
      ∃ refusal : past.Refusal description record,
        past.BreaksOff refusal.field.fieldType refusal.rule refusal.value fault := by
  have shows (refusal : past.Refusal description record) : refusal.shown.verdict = .error fault ↔
      past.BreaksOff refusal.field.fieldType refusal.rule refusal.value fault := by
    obtain ⟨built, ready⟩ :=
      (Engine.ready_of_buildRecord registered.built refusal.field_mem).2 _ refusal.rule_mem
    exact ask_verdict_eq_error_iff (registered.onlyBuiltins only) ready
  rw [registered.run_verdict_eq_error_iff isInstance]
  constructor
  · rintro (⟨refusal, broken⟩ | ⟨missing, -⟩)
    · exact ⟨refusal, (shows refusal).mp broken⟩
    · have there := complete missing.field missing.field_mem
      rw [missing.attribute_eq] at there
      cases there
  · rintro ⟨refusal, breaks⟩
    exact .inl ⟨refusal, (shows refusal).mpr breaks⟩

/-! ### What is to blame -/

/-- A value at which a run cannot go on, and why: a numeral that is too long, or a record
    that lacks an attribute. -/
inductive EndsRuns : Value → RunFault → Prop
  | numeral {value : Value} {digits : Nat} (tooLong : value.IsTooLongNumeral digits) :
      EndsRuns value (.numeralTooLong digits)
  | lacking {cls : RecordClass} {attributes : List (String × Value)} {name : String}
      (absent : attributes.lookup name = none) :
      EndsRuns (.record cls attributes) (.missingAttribute cls.name name)

theorem endsRuns_of_missing {cls : RecordClass} (isInstance : value.isInstanceOf cls = true)
    {name : String} (absent : value.attribute? name = none) :
    EndsRuns value (.missingAttribute value.className name) := by
  cases value with
  | record own attributes => exact .lacking absent
  | _ => cases isInstance

/-- What breaks a run off stands in the value, or in a record inside of it. -/
theorem BreaksOff.exists_culprit (breaks : past.BreaksOff type rule value fault) :
    ∃ path culprit, value.follow path = some culprit ∧ EndsRuns culprit fault := by
  induction breaks with
  | numeral known compares tooLong => exact ⟨[], _, rfl, .numeral tooLong⟩
  | missing known resolved found isInstance registered missing =>
    exact ⟨[], _, rfl, endsRuns_of_missing isInstance missing.attribute_eq⟩
  | inside known resolved found isInstance registered refusal breaks ih =>
    obtain ⟨path, culprit, leads, ends⟩ := ih
    refine ⟨refusal.field.name :: path, culprit, ?_, ends⟩
    rw [Value.follow, refusal.attribute_eq]
    exact leads

/-! ### Validating -/

/-- **When validating breaks off**, with the built-in rules alone.  A record of a registered
    class with all attributes is told a verdict, unless its first refusal breaks the run
    off; and so is a value by what was compiled from text, unless the first rule does that
    it does not pass.  Then following attributes leads to a numeral that is too long, or
    to a record inside that lacks an attribute. -/
theorem validating_breaks_off_exactly {history : History} (only : history.OnlyBuiltins) :
    (∀ (cls : RecordClass) (validator : RecordValidator) (attributes : List (String × Value)),
      history.engine.record? cls = some validator →
      (∀ name ∈ validator.fieldNames, (attributes.lookup name).isSome) →
      ∃ past description outcome, history.Registered past description validator ∧
        history.engine.validate (.record cls attributes) = .ok outcome ∧
        ∀ fault,
          (outcome.verdict = .error fault ↔
            ∃ refusal : past.Refusal description (.record cls attributes),
              past.BreaksOff refusal.field.fieldType refusal.rule refusal.value fault) ∧
          (outcome.verdict = .error fault →
            ∃ name path culprit,
              (Value.record cls attributes).follow (name :: path) = some culprit ∧
                EndsRuns culprit fault)) ∧
    ∀ validator ∈ history.compiled,
      ∃ (past : History) (rules : String) (type : FieldType) (name : String),
        past.Reaches history ∧ past.engine.compile rules type name = .ok validator ∧
        ∀ value fault,
          ((validator.run value).verdict = .error fault ↔
            past.FieldBreaksOff (.ofText rules type name) value fault) ∧
          ((validator.run value).verdict = .error fault →
            ∃ path culprit, value.follow path = some culprit ∧ EndsRuns culprit fault) := by
  constructor
  · intro cls validator attributes found complete
    obtain ⟨past, description, registered⟩ := registered_of_record? found
    have isInstance := isInstanceOf_of_record? found attributes
    have there : ∀ field ∈ description.validatedFields, (attributes.lookup field.name).isSome := by
      intro field member
      refine complete field.name ?_
      rw [Engine.fieldNames_of_buildRecord registered.built]
      exact List.mem_map_of_mem member
    have broken_iff (fault : RunFault) :
        (validator.run (.record cls attributes)).verdict = .error fault ↔
          ∃ refusal : past.Refusal description (.record cls attributes),
            past.BreaksOff refusal.field.fieldType refusal.rule refusal.value fault :=
      registered.run_eq_error_iff_of_complete only isInstance there
    refine ⟨past, description, _, registered, validate_of_record? found, fun fault =>
      ⟨broken_iff fault, fun broken => ?_⟩⟩
    obtain ⟨refusal, breaks⟩ := (broken_iff fault).mp broken
    obtain ⟨path, culprit, leads, ends⟩ := breaks.exists_culprit
    refine ⟨refusal.field.name, path, culprit, ?_, ends⟩
    rw [Value.follow, refusal.attribute_eq]
    exact leads
  · intro validator member
    obtain ⟨past, rules, type, name, reaches, compiles⟩ := exists_compile member
    have built := compiles
    rw [Engine.compile_eq_buildField] at built
    refine ⟨past, rules, type, name, reaches, compiles, fun value fault => ?_⟩
    have broken_iff : (validator.run value).verdict = .error fault ↔
        past.FieldBreaksOff (.ofText rules type name) value fault :=
      run_buildField_eq_error_iff (reaches.onlyBuiltins only) built
    refine ⟨broken_iff, fun broken => ?_⟩
    obtain ⟨-, passed, rule, rest, -, -, breaks⟩ := broken_iff.mp broken
    exact breaks.exists_culprit

theorem validating_breaks_off_exactly_for_residents :
    residents.OnlyBuiltins ∧ ∃ validator, residents.engine.record? personClass = some validator ∧
      ∃ past description outcome, residents.Registered past description validator ∧
        residents.engine.validate (.record personClass (livingOn 0)) = .ok outcome ∧
        ∀ fault,
          (outcome.verdict = .error fault ↔
            ∃ refusal : past.Refusal description (.record personClass (livingOn 0)),
              past.BreaksOff refusal.field.fieldType refusal.rule refusal.value fault) ∧
          (outcome.verdict = .error fault →
            ∃ name path culprit,
              (Value.record personClass (livingOn 0)).follow (name :: path) = some culprit ∧
                EndsRuns culprit fault) := by
  have only : residents.OnlyBuiltins := ⟨⟨⟨trivial, rfl⟩, rfl⟩, rfl⟩
  obtain ⟨validator, found, names⟩ := exists_fieldNames_residents
  have complete : ∀ name ∈ validator.fieldNames, ((livingOn 0).lookup name).isSome := by
    rw [names]
    decide +kernel
  exact ⟨only, validator, found,
    (validating_breaks_off_exactly only).1 personClass validator (livingOn 0) found complete⟩

theorem compile_max_one :
    (Engine.create true).1.compile "max(1)" (.plain "int" false) "value" =
      .ok (.inField "value" (.test (.atMost 1))) := by
  have read : Rule.parse "max(1)" = .ok
      [{ invocation := { name := "max", arguments := "1" }, arguments := { integers := [1] } }] := by
    decide +kernel
  rw [Engine.compile_eq_buildField]
  exact Engine.buildField_eq_ok_iff.mpr ⟨_, [some (.test (.atMost 1))], read, rfl, rfl⟩

/-- A text that is the digit one, over and over. -/
def onesOf (count : Nat) : Value := .text (String.ofList (List.replicate count '1'))

theorem isTooLongNumeral_onesOf {count : Nat} (many : Number.maxDigits < count) :
    (onesOf count).IsTooLongNumeral count where
  numeral := by
    refine ⟨_, rfl, ?_, fun c member => ?_⟩
    · rw [String.length_ofList, List.length_replicate]
    · rw [String.toList_ofList] at member
      rw [List.eq_of_mem_replicate member]
      rfl
  tooLong := many

/-- Validating may break off: a rule that compares numbers does not stand up to a long
    numeral. -/
theorem validating_breaks_off_at_long_numeral :
    ¬ ∀ history : History, history.OnlyBuiltins → ∀ validator ∈ history.compiled, ∀ value,
      ∃ found, (validator.run value).verdict = .ok found := by
  intro ends
  let history := (start true).next (.compile "max(1)" (.plain "int" false) "value")
  have member : .inField "value" (.test (.atMost 1)) ∈ history.compiled := by
    have performed : history.compiled = [.inField "value" (.test (.atMost 1))] :=
      compiled_next_of_compile compile_max_one
    rw [performed]
    exact List.mem_singleton_self _
  have plain : Builtin.max ≠ .record := by decide
  have built : Builtin.max.build { integers := [1] } = .ok (.test (.atMost 1)) := rfl
  have tooLong : (onesOf 4301).IsTooLongNumeral 4301 := isTooLongNumeral_onesOf (by decide)
  have broken : (Validator.run (.test (.atMost 1)) (onesOf 4301)).verdict =
      .error (.numeralTooLong 4301) :=
    (run_eq_error_iff plain built).mpr ⟨rfl, 4301, tooLong, rfl⟩
  obtain ⟨found, verdict⟩ := ends history ⟨trivial, rfl⟩ _ member (onesOf 4301)
  rw [Validator.run, Outcome.inField_verdict_eq_error_iff.mpr broken] at verdict
  cases verdict

end History

end FieldRules
