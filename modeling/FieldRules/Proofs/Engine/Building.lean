/-
  FieldRules/Proofs/Engine/Building.lean
  ======================================
  **What it takes to build a validator, and what is built.**

  For each stage of building there is one equivalence that says when it
  succeeds and with what: a rule has its factory, its resolved arguments and
  what the factory makes of them; the rules of a text, and the fields of a
  description, are built one by one.  Everything later about built validators
  goes through these and opens no stage again.
-/
import FieldRules.Engine.Build
import FieldRules.Proofs.Result
import FieldRules.Proofs.Validator.Order

namespace FieldRules

/-- The rules of a field, none if its text is malformed. -/
def FieldDescription.readRules (field : FieldDescription) : List Rule :=
  match Rule.parse (field.rules.getD "") with
  | .ok rules => rules
  | .error _ => []

/-- Whether a field lets a value pass without a look at its rules. -/
def FieldDescription.waives (field : FieldDescription) : Value → Bool
  | .none => field.optional
  | _ => false

theorem FieldDescription.waives_iff {field : FieldDescription} {value : Value} :
    field.waives value = true ↔ field.optional = true ∧ value = .none := by
  cases value <;> simp [waives]

namespace Engine

variable {engine : Engine}

/-! ### Rules -/

theorem buildRule_eq_ok_iff {type : FieldType} {rule : Rule} {built : Option Validator} :
    engine.buildRule type rule = .ok built ↔
      ∃ factory arguments, engine.factory rule.name = .ok factory ∧
        engine.resolve type rule = .ok arguments ∧ factory.build arguments = .ok built := by
  unfold buildRule
  cases engine.factory rule.name with
  | error fault => simp
  | ok factory =>
    cases engine.resolve type rule with
    | error fault => simp
    | ok arguments =>
      cases result : factory.build arguments with
      | error fault => simp [result]
      | ok validator => simp [result]

theorem buildRules_eq_ok_iff {type : FieldType} {rules : List Rule}
    {built : List (Option Validator)} :
    engine.buildRules type rules = .ok built ↔
      List.Forall₂ (fun rule validator => engine.buildRule type rule = .ok validator)
        rules built := by
  induction rules generalizing built with
  | nil => cases built <;> simp [buildRules]
  | cons rule rest ih =>
    unfold buildRules
    cases first : engine.buildRule type rule with
    | error fault => cases built <;> simp [first]
    | ok validator =>
      cases later : engine.buildRules type rest with
      | error fault => cases built <;> simp [first, ← ih, later]
      | ok validators => cases built <;> simp [first, ← ih, later]

/-- **Why a rule is not built**: it has no factory, its arguments cannot be resolved, or its
    factory refuses them. -/
theorem buildRule_eq_error_iff {type : FieldType} {rule : Rule} {fault : BuildFault} :
    engine.buildRule type rule = .error fault ↔
      engine.factory rule.name = .error fault ∨
        ∃ factory, engine.factory rule.name = .ok factory ∧
          (engine.resolve type rule = .error fault ∨
            ∃ arguments reason, engine.resolve type rule = .ok arguments ∧
              factory.build arguments = .error reason ∧ .factory rule.name reason = fault) := by
  unfold buildRule
  cases engine.factory rule.name with
  | error fault => simp
  | ok factory =>
    cases engine.resolve type rule with
    | error fault => simp
    | ok arguments =>
      cases result : factory.build arguments with
      | error reason => simp [result]
      | ok validator => simp [result]

theorem buildRules_eq_error_iff {type : FieldType} {rules : List Rule} {fault : BuildFault} :
    engine.buildRules type rules = .error fault ↔
      ∃ rule, FirstFails (engine.buildRule type) rules rule fault := by
  induction rules with
  | nil => simp [buildRules, not_firstFails_nil]
  | cons rule rest ih =>
    unfold buildRules
    simp only [firstFails_cons_iff]
    cases first : engine.buildRule type rule with
    | error other => simp
    | ok validator =>
      cases later : engine.buildRules type rest with
      | error other => simp [← ih, later]
      | ok validators => simp [← ih, later]

theorem buildRules_congr {other : Engine} {type type' : FieldType} {rules : List Rule}
    (same : ∀ rule ∈ rules, engine.buildRule type rule = other.buildRule type' rule) :
    engine.buildRules type rules = other.buildRules type' rules := by
  induction rules with
  | nil => rfl
  | cons rule rest ih =>
    rw [List.forall_mem_cons] at same
    rw [buildRules, buildRules, same.1, ih same.2]

theorem resolve_eq_ok {type : FieldType} {rule : Rule} {arguments : RuleArguments}
    (resolved : engine.resolve type rule = .ok arguments) :
    arguments.fieldType = type ∧ arguments.records = some engine.records := by
  unfold resolve at resolved
  split at resolved
  · cases resolved
  · cases resolved
    exact ⟨rfl, rfl⟩

/-- **A rule is built alike** where its factory is the same and makes the same of what the
    arguments come to. -/
theorem buildRule_eq_of_resolve {other : Engine} {type type' : FieldType} {rule : Rule}
    {change : RuleArguments → RuleArguments}
    (sameFactory : other.factory rule.name = engine.factory rule.name)
    (resolves : other.resolve type' rule = (engine.resolve type rule).map change)
    (same : ∀ factory arguments, engine.factory rule.name = .ok factory →
      engine.resolve type rule = .ok arguments →
      factory.build (change arguments) = factory.build arguments) :
    other.buildRule type' rule = engine.buildRule type rule := by
  unfold buildRule
  rw [sameFactory, resolves]
  cases known : engine.factory rule.name with
  | error fault => rfl
  | ok factory =>
    cases resolved : engine.resolve type rule with
    | error fault => rfl
    | ok arguments => simp only [Except.map, same factory arguments known resolved]

/-! ### Fields and records -/

theorem buildField_eq_ok_iff {field : FieldDescription} {validator : Validator} :
    engine.buildField field = .ok validator ↔
      ∃ rules built, Rule.parse (field.rules.getD "") = .ok rules ∧
        engine.buildRules field.fieldType rules = .ok built ∧
        (if field.optional then .optional (.inField field.name (Validator.chain built))
          else .inField field.name (Validator.chain built)) = validator := by
  unfold buildField
  cases Rule.parse (field.rules.getD "") with
  | error fault => simp
  | ok rules =>
    cases result : engine.buildRules field.fieldType rules with
    | error fault => simp [result]
    | ok built => simp [result, Validator.withField]

/-- **A field is built when its text is read and each of its rules is built.** -/
theorem exists_buildField_iff {field : FieldDescription} :
    (∃ validator, engine.buildField field = .ok validator) ↔
      ∃ rules, Rule.parse (field.rules.getD "") = .ok rules ∧
        ∀ rule ∈ rules, ∃ built, engine.buildRule field.fieldType rule = .ok built := by
  constructor
  · rintro ⟨validator, ready⟩
    obtain ⟨rules, built, read, rulesBuilt, -⟩ := buildField_eq_ok_iff.mp ready
    exact ⟨rules, read, exists_forall₂_iff.mp ⟨built, buildRules_eq_ok_iff.mp rulesBuilt⟩⟩
  · rintro ⟨rules, read, each⟩
    obtain ⟨built, rulesBuilt⟩ := exists_forall₂_iff.mpr each
    exact ⟨_, buildField_eq_ok_iff.mpr
      ⟨rules, built, read, buildRules_eq_ok_iff.mpr rulesBuilt, rfl⟩⟩

theorem buildField_eq_error_iff {field : FieldDescription} {fault : BuildFault} :
    engine.buildField field = .error fault ↔
      (∃ problem, Rule.parse (field.rules.getD "") = .error problem ∧ .malformed problem = fault) ∨
        ∃ rules rule, Rule.parse (field.rules.getD "") = .ok rules ∧
          FirstFails (engine.buildRule field.fieldType) rules rule fault := by
  unfold buildField
  cases Rule.parse (field.rules.getD "") with
  | error problem => simp
  | ok rules =>
    cases result : engine.buildRules field.fieldType rules with
    | error other => simp [result, ← buildRules_eq_error_iff]
    | ok built => simp [result, ← buildRules_eq_error_iff]

theorem buildFields_eq_ok_iff {fields : List FieldDescription}
    {built : List (String × Validator)} :
    engine.buildFields fields = .ok built ↔
      List.Forall₂ (fun field entry =>
        entry.1 = field.name ∧ engine.buildField field = .ok entry.2) fields built := by
  induction fields generalizing built with
  | nil => cases built <;> simp [buildFields]
  | cons field rest ih =>
    unfold buildFields
    cases first : engine.buildField field with
    | error fault => cases built <;> simp [first]
    | ok validator =>
      cases later : engine.buildFields rest with
      | error fault => cases built <;> simp [first, ← ih, later]
      | ok validators =>
        cases built with
        | nil => simp
        | cons entry more =>
          obtain ⟨name, other⟩ := entry
          rw [List.forall₂_cons, ← ih, later, first]
          simp [and_assoc, eq_comm]

theorem buildRecord_eq_ok_iff {description : RecordDescription} {validator : RecordValidator} :
    engine.buildRecord description = .ok validator ↔
      validator.cls = description.cls ∧
        List.Forall₂ (fun field entry =>
          entry.1 = field.name ∧ engine.buildField field = .ok entry.2)
          description.validatedFields validator.fields := by
  rw [← buildFields_eq_ok_iff]
  unfold buildRecord
  obtain ⟨cls, fields⟩ := validator
  cases engine.buildFields description.validatedFields with
  | error fault => simp
  | ok built => simp [eq_comm]

/-- **A record is built when each of its fields that have rules is built.** -/
theorem exists_buildRecord_iff_fields {description : RecordDescription} :
    (∃ validator, engine.buildRecord description = .ok validator) ↔
      ∀ field ∈ description.validatedFields, ∃ validator, engine.buildField field = .ok validator := by
  constructor
  · rintro ⟨validator, built⟩ field member
    obtain ⟨entry, -, -, ready⟩ :=
      exists_right_of_forall₂ (buildRecord_eq_ok_iff.mp built).2 member
    exact ⟨entry.2, ready⟩
  · intro each
    have entries : ∀ field ∈ description.validatedFields, ∃ entry : String × Validator,
        entry.1 = field.name ∧ engine.buildField field = .ok entry.2 := by
      intro field member
      obtain ⟨validator, ready⟩ := each field member
      exact ⟨(field.name, validator), rfl, ready⟩
    obtain ⟨fields, related⟩ := exists_forall₂_iff.mpr entries
    exact ⟨⟨description.cls, fields⟩, buildRecord_eq_ok_iff.mpr ⟨rfl, related⟩⟩

theorem fieldNames_of_buildRecord {description : RecordDescription}
    {validator : RecordValidator} (built : engine.buildRecord description = .ok validator) :
    validator.fieldNames = description.validatedFields.map (·.name) := by
  have fields := (buildRecord_eq_ok_iff.mp built).2
  unfold RecordValidator.fieldNames
  generalize description.validatedFields = descriptions, validator.fields = entries at fields ⊢
  induction fields with
  | nil => rfl
  | cons head rest ih => rw [List.map_cons, List.map_cons, head.1, ih]

/-! ### Nested records -/

/-- What a field refers to is registered: the only record of the class it names,
    or the only one that goes by the name it gives. -/
theorem findRecord_mem {arguments : RuleArguments} {records : List RecordValidator}
    {target : RecordValidator} (present : arguments.records = some records)
    (found : Builtin.findRecord arguments = .ok target) : target ∈ records := by
  unfold Builtin.findRecord at found
  rw [present] at found
  cases type : arguments.fieldType with
  | record cls =>
    rw [type] at found
    cases hit : records.find? (·.cls.id == cls.id) with
    | none => simp [hit] at found
    | some other =>
      obtain rfl : other = target := by simpa [hit] using found
      exact List.mem_of_find?_eq_some hit
  | unresolved name =>
    rw [type] at found
    cases hits : records.filter (·.isCalled name) with
    | nil => simp [hits] at found
    | cons first others =>
      cases others with
      | nil =>
        obtain rfl : first = target := by simpa [hits] using found
        exact (List.mem_filter.mp (hits ▸ List.mem_cons_self)).1
      | cons second more => simp [hits] at found
  | _ => simp [type] at found

theorem build_record_eq_ok_iff {arguments : RuleArguments} {built : Option Validator} :
    Factory.build (.builtin .record) arguments = .ok built ↔
      ∃ target, Builtin.findRecord arguments = .ok target ∧ some target.toValidator = built := by
  unfold Factory.build Builtin.build
  simp only [map_eq_ok_iff]
  constructor
  · rintro ⟨inner, ⟨target, found, rfl⟩, rfl⟩
    exact ⟨target, found, rfl⟩
  · rintro ⟨target, found, rfl⟩
    exact ⟨_, ⟨target, found, rfl⟩, rfl⟩

/-- What a factory builds for a rule that does not look into records: one of the
    built-in tests, a check of the application, or nothing. -/
inductive Plain : Option Validator → Prop
  | none : Plain none
  | test (what : Test) : Plain (some (.test what))
  | custom (judge : Value → Outcome) : Plain (some (.custom judge))

theorem plain_of_builtin {rule : Builtin} {arguments : RuleArguments} {validator : Validator}
    (other : rule ≠ .record) (built : rule.build arguments = .ok validator) :
    Plain (some validator) := by
  unfold Builtin.build at built
  cases rule with
  | max =>
    obtain ⟨bound, -, rfl⟩ := map_eq_ok_iff.mp built
    exact .test _
  | min =>
    obtain ⟨bound, -, rfl⟩ := map_eq_ok_iff.mp built
    exact .test _
  | integerRange =>
    cases built
    exact .test _
  | stringRange =>
    cases built
    exact .test _
  | notEmpty =>
    cases built
    exact .test _
  | length =>
    obtain ⟨-, -, counted⟩ := bind_eq_ok_iff.mp built
    obtain ⟨count, -, tested⟩ := bind_eq_ok_iff.mp counted
    cases tested
    exact .test _
  | regex =>
    obtain ⟨-, -, sourced⟩ := bind_eq_ok_iff.mp built
    obtain ⟨source, -, read⟩ := bind_eq_ok_iff.mp sourced
    obtain ⟨pattern, -, tested⟩ := bind_eq_ok_iff.mp read
    cases tested
    exact .test _
  | record => exact absurd rfl other

theorem plain_of_build {factory : Factory} {arguments : RuleArguments} {built : Option Validator}
    (other : factory ≠ .builtin .record) (result : factory.build arguments = .ok built) :
    Plain built := by
  unfold Factory.build at result
  cases factory with
  | builtin rule =>
    obtain ⟨validator, tested, rfl⟩ := map_eq_ok_iff.mp result
    exact plain_of_builtin (fun same => other (congrArg Factory.builtin same)) tested
  | custom factory =>
    obtain ⟨judge, -, rfl⟩ := map_eq_ok_iff.mp result
    cases judge with
    | none => exact .none
    | some judge => exact .custom judge

/-- **Where a rule is built**, its factory does not look into records and builds
    something plain, or it refers to a record that is registered. -/
theorem buildRule_cases {type : FieldType} {rule : Rule} {built : Option Validator}
    (ready : engine.buildRule type rule = .ok built) :
    (∃ factory arguments, engine.factory rule.name = .ok factory ∧
      factory ≠ .builtin .record ∧ engine.resolve type rule = .ok arguments ∧
      factory.build arguments = .ok built ∧ Plain built) ∨
    (∃ arguments target, engine.factory rule.name = .ok (.builtin .record) ∧
      engine.resolve type rule = .ok arguments ∧ Builtin.findRecord arguments = .ok target ∧
      target ∈ engine.records ∧ built = some target.toValidator) := by
  obtain ⟨factory, arguments, known, resolved, builds⟩ := buildRule_eq_ok_iff.mp ready
  by_cases looksInto : factory = .builtin .record
  · subst looksInto
    obtain ⟨target, found, rfl⟩ := build_record_eq_ok_iff.mp builds
    have member := findRecord_mem (resolve_eq_ok resolved).2 found
    exact .inr ⟨arguments, target, known, resolved, found, member, rfl⟩
  · exact .inl ⟨factory, arguments, known, looksInto, resolved, builds,
      plain_of_build looksInto builds⟩

end Engine

end FieldRules
