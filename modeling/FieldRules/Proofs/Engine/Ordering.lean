/-
  FieldRules/Proofs/Engine/Ordering.lean
  ======================================
  **The order in which records are registered has no part in their verdicts.**

  What is built for a record depends on the records that are there only through
  the classes that its rules about nested records refer to.  So whatever order
  a set of records is registered in, the engine at the end would build each of
  them again as it was built (`settled_of_registerAll`).  Going along one order,
  what is built next is then what the other order ends with
  (`kept_of_registerAll`): the records that it refers to are the same, as they
  came earlier.

  An order succeeds throughout if and only if each record comes after those
  that it refers to (`exists_registerAll_iff`).
-/
import FieldRules.Proofs.Engine.Builtins
import FieldRules.Proofs.Engine.Reading

namespace FieldRules

namespace Engine

variable {engine other last : Engine} {description : RecordDescription}
  {descriptions : List RecordDescription}

/-! ### Records that refer to others -/

def withRecords (engine : Engine) (records : List RecordValidator) : Engine :=
  { engine with records := records }

/-- Registers records one after another; the first error ends it. -/
def registerAll (engine : Engine) : List RecordDescription → Except Error Engine
  | [] => .ok engine
  | description :: rest =>
    match engine.registerRecord description.cls (.ok description) with
    | .error error => .error error
    | .ok registration => registration.engine.registerAll rest

/-- A rule about nested records, under whatever name its factory is registered. -/
def AsksNested (engine : Engine) (rule : Rule) : Prop :=
  engine.factory rule.name = .ok (.builtin .record)

/-- A field of the record has a rule about nested records and is declared with the class. -/
def Targets (engine : Engine) (description : RecordDescription) (cls : RecordClass) : Prop :=
  ∃ field ∈ description.validatedFields, field.fieldType = .record cls ∧
    ∃ rule ∈ field.readRules, engine.AsksNested rule

/-- Fields with rules about nested records are declared with a record class. -/
def DeclaresTargets (engine : Engine) (description : RecordDescription) : Prop :=
  ∀ field ∈ description.validatedFields, ∀ rule ∈ field.readRules, engine.AsksNested rule →
    ∃ cls, field.fieldType = .record cls

/-- The texts of all fields can be read and their rules be built, but for the records
    that rules about nested records refer to. -/
def OthersBuild (engine : Engine) (description : RecordDescription) : Prop :=
  ∀ field ∈ description.validatedFields,
    Rule.parse (field.rules.getD "") = .ok field.readRules ∧
    ∀ rule ∈ field.readRules,
      (∃ built, engine.buildRule field.fieldType rule = .ok built) ∨
        engine.AsksNested rule ∧ ∃ arguments, engine.resolve field.fieldType rule = .ok arguments

instance (engine : Engine) (rule : Rule) : Decidable (engine.AsksNested rule) :=
  match known : engine.factory rule.name with
  | .ok (.builtin builtin) =>
    decidable_of_iff (builtin = .record) (by simp [AsksNested, known])
  | .ok (.custom _) => isFalse (by simp [AsksNested, known])
  | .error _ => isFalse (by simp [AsksNested, known])

instance (type : FieldType) : Decidable (∃ cls, type = .record cls) :=
  match type with
  | .record cls => isTrue ⟨cls, rfl⟩
  | .absent | .plain _ _ | .unresolved _ | .forward _ | .union _ _ | .annotated _ _
  | .container _ _ | .function _ | .literal _ _ => isFalse (by simp)

instance (engine : Engine) (description : RecordDescription) (cls : RecordClass) :
    Decidable (engine.Targets description cls) :=
  inferInstanceAs (Decidable (∃ field ∈ description.validatedFields,
    field.fieldType = .record cls ∧ ∃ rule ∈ field.readRules, engine.AsksNested rule))

instance (engine : Engine) (description : RecordDescription) :
    Decidable (engine.DeclaresTargets description) :=
  inferInstanceAs (Decidable (∀ field ∈ description.validatedFields, ∀ rule ∈ field.readRules,
    engine.AsksNested rule → ∃ cls, field.fieldType = .record cls))

instance (engine : Engine) (description : RecordDescription) :
    Decidable (engine.OthersBuild description) :=
  inferInstanceAs (Decidable (∀ field ∈ description.validatedFields,
    Rule.parse (field.rules.getD "") = .ok field.readRules ∧ ∀ rule ∈ field.readRules,
      (∃ built, engine.buildRule field.fieldType rule = .ok built) ∨
        engine.AsksNested rule ∧ ∃ arguments, engine.resolve field.fieldType rule = .ok arguments))

/-! ### Looking records up -/

theorem record?_congr {cls cls' : RecordClass} (same : cls.id = cls'.id) :
    engine.record? cls = engine.record? cls' := by
  unfold record?
  rw [same]

theorem mem_of_record? {cls : RecordClass} {validator : RecordValidator}
    (found : engine.record? cls = some validator) :
    validator ∈ engine.records ∧ validator.cls.id = cls.id :=
  ⟨List.mem_of_find?_eq_some found, by simpa using List.find?_some found⟩

theorem exists_record?_iff {cls : RecordClass} :
    (∃ validator, engine.record? cls = some validator) ↔
      ∃ validator ∈ engine.records, validator.cls.id = cls.id := by
  constructor
  · rintro ⟨validator, found⟩
    exact ⟨validator, mem_of_record? found⟩
  · rintro ⟨validator, member, same⟩
    refine Option.isSome_iff_exists.mp (List.find?_isSome.mpr ⟨validator, member, ?_⟩)
    rw [same]
    exact beq_self_eq_true _

theorem record?_withRecord (validator : RecordValidator) (cls : RecordClass) :
    (engine.withRecord validator).record? cls =
      (engine.record? cls).or (if validator.cls.id == cls.id then some validator else none) := by
  simp only [record?, withRecord, List.find?_append, List.find?_singleton]

/-! ### Rules and records in the sight of other records -/

theorem resolve_withRecords (engine : Engine) (records : List RecordValidator) (type : FieldType)
    (rule : Rule) :
    (engine.withRecords records).resolve type rule =
      (engine.resolve type rule).map fun arguments => { arguments with records := some records } := by
  unfold resolve withRecords
  dsimp only
  split <;> rfl

theorem buildRule_withRecords (pure : engine.HasPureFactories) {type : FieldType} {rule : Rule}
    (plain : ¬ engine.AsksNested rule) (records : List RecordValidator) :
    (engine.withRecords records).buildRule type rule = engine.buildRule type rule := by
  refine buildRule_eq_of_resolve rfl (engine.resolve_withRecords records type rule) ?_
  intro factory arguments known _
  cases factory with
  | builtin builtin =>
    have notRecord : builtin ≠ .record := by
      rintro rfl
      exact plain known
    rw [Factory.build, Factory.build, Builtin.build_withRecords notRecord]
  | custom factory => rw [Factory.build, Factory.build, pure _ _ known]

theorem findRecord_of_record {arguments : RuleArguments} {cls : RecordClass}
    (declared : arguments.fieldType = .record cls) (present : arguments.records = some engine.records) :
    Builtin.findRecord arguments =
      match engine.record? cls with
      | some found => .ok found
      | none => .error (.refused (.unregisteredRecord (.record cls))) := by
  cases found : engine.record? cls with
  | none =>
    have found : engine.records.find? (·.cls.id == cls.id) = none := found
    simp only [Builtin.findRecord, declared, present, found]
  | some validator =>
    have found : engine.records.find? (·.cls.id == cls.id) = some validator := found
    simp only [Builtin.findRecord, declared, present, found]

/-- **A rule about nested records is built when the class of its field is registered.** -/
theorem exists_buildRule_iff_of_asksNested {rule : Rule} {cls : RecordClass}
    (asks : engine.AsksNested rule) :
    (∃ built, engine.buildRule (.record cls) rule = .ok built) ↔
      (∃ arguments, engine.resolve (.record cls) rule = .ok arguments) ∧
        ∃ validator, engine.record? cls = some validator := by
  simp only [buildRule_eq_ok_iff]
  constructor
  · rintro ⟨built, factory, arguments, known, resolved, builds⟩
    obtain rfl : Factory.builtin .record = factory := Except.ok.inj (asks.symm.trans known)
    obtain ⟨target, found, -⟩ := build_record_eq_ok_iff.mp builds
    obtain ⟨declared, present⟩ := resolve_eq_ok resolved
    rw [findRecord_of_record declared present] at found
    cases there : engine.record? cls with
    | none => simp [there] at found
    | some validator => exact ⟨⟨arguments, resolved⟩, validator, rfl⟩
  · rintro ⟨⟨arguments, resolved⟩, validator, there⟩
    obtain ⟨declared, present⟩ := resolve_eq_ok resolved
    refine ⟨some validator.toValidator, _, arguments, asks, resolved,
      build_record_eq_ok_iff.mpr ⟨validator, ?_, rfl⟩⟩
    rw [findRecord_of_record declared present, there]

/-- **A rule is built alike where the class that it refers to is looked up alike.** -/
theorem buildRule_congr (pure : engine.HasPureFactories) {type : FieldType} {rule : Rule}
    {records others : List RecordValidator}
    (same : engine.AsksNested rule → ∃ cls, type = .record cls ∧
      (engine.withRecords records).record? cls = (engine.withRecords others).record? cls) :
    (engine.withRecords records).buildRule type rule =
      (engine.withRecords others).buildRule type rule := by
  by_cases asks : engine.AsksNested rule
  · obtain ⟨cls, rfl, sameRecord⟩ := same asks
    refine buildRule_eq_of_resolve rfl
      ((engine.withRecords others).resolve_withRecords records (.record cls) rule) ?_
    intro factory arguments known resolved
    obtain rfl : Factory.builtin .record = factory := Except.ok.inj (asks.symm.trans known)
    obtain ⟨declared, present⟩ := resolve_eq_ok resolved
    have found : Builtin.findRecord { arguments with records := some records } =
        match (engine.withRecords records).record? cls with
        | some found => .ok found
        | none => .error (.refused (.unregisteredRecord (.record cls))) :=
      findRecord_of_record declared rfl
    rw [sameRecord, ← findRecord_of_record declared present] at found
    simp only [Factory.build, Builtin.build, found]
  · rw [buildRule_withRecords pure asks, buildRule_withRecords pure asks]

section

variable (sameRules : ∀ field ∈ description.validatedFields, ∀ rule ∈ field.readRules,
  engine.buildRule field.fieldType rule = other.buildRule field.fieldType rule)

theorem buildField_congr {field : FieldDescription}
    (same : ∀ rule ∈ field.readRules,
      engine.buildRule field.fieldType rule = other.buildRule field.fieldType rule) :
    engine.buildField field = other.buildField field := by
  unfold buildField
  cases read : Rule.parse (field.rules.getD "") with
  | error fault => rfl
  | ok rules =>
    have sameRules : field.readRules = rules := by
      rw [FieldDescription.readRules, read]
    rw [sameRules] at same
    simp only [buildRules_congr same]

theorem buildFields_congr {fields : List FieldDescription}
    (same : ∀ field ∈ fields, engine.buildField field = other.buildField field) :
    engine.buildFields fields = other.buildFields fields := by
  induction fields with
  | nil => rfl
  | cons field rest ih =>
    rw [List.forall_mem_cons] at same
    rw [buildFields, buildFields, same.1, ih same.2]

include sameRules in
theorem buildRecord_congr : engine.buildRecord description = other.buildRecord description := by
  have sameFields : engine.buildFields description.validatedFields =
      other.buildFields description.validatedFields :=
    buildFields_congr fun field member => buildField_congr (sameRules field member)
  rw [buildRecord, buildRecord, sameFields]

end

/-- **A record is built alike where the classes that it refers to are looked up alike.** -/
theorem buildRecord_withRecords_congr (pure : engine.HasPureFactories)
    (declares : engine.DeclaresTargets description) {records others : List RecordValidator}
    (same : ∀ cls, engine.Targets description cls →
      (engine.withRecords records).record? cls = (engine.withRecords others).record? cls) :
    (engine.withRecords records).buildRecord description =
      (engine.withRecords others).buildRecord description := by
  apply buildRecord_congr
  intro field isField rule isRule
  apply buildRule_congr pure
  intro asks
  obtain ⟨cls, declared⟩ := declares field isField rule isRule asks
  exact ⟨cls, declared, same cls ⟨field, isField, declared, rule, isRule, asks⟩⟩

/-- What a built record refers to is registered. -/
theorem exists_record?_of_targets {validator : RecordValidator}
    (built : engine.buildRecord description = .ok validator) {cls : RecordClass}
    (isTarget : engine.Targets description cls) : ∃ target, engine.record? cls = some target := by
  obtain ⟨field, isField, declared, rule, isRule, asks⟩ := isTarget
  have ruleBuilt := (ready_of_buildRecord built isField).2 rule isRule
  rw [declared] at ruleBuilt
  exact ((exists_buildRule_iff_of_asksNested asks).mp ruleBuilt).2

/-- **A record is built when the classes that it refers to are registered**, if
    everything else is in order. -/
theorem exists_buildRecord_iff (pure : engine.HasPureFactories)
    (declares : engine.DeclaresTargets description) (ready : engine.OthersBuild description)
    (records : List RecordValidator) :
    (∃ validator, (engine.withRecords records).buildRecord description = .ok validator) ↔
      ∀ cls, engine.Targets description cls → ∃ validator ∈ records, validator.cls.id = cls.id := by
  constructor
  · rintro ⟨validator, built⟩ cls isTarget
    have isTarget : (engine.withRecords records).Targets description cls := isTarget
    exact exists_record?_iff.mp (exists_record?_of_targets built isTarget)
  · intro there
    refine exists_buildRecord_iff_fields.mpr ?_
    intro field isField
    obtain ⟨read, rules⟩ := ready field isField
    refine exists_buildField_iff.mpr ⟨field.readRules, read, ?_⟩
    intro rule isRule
    by_cases asks : engine.AsksNested rule
    · obtain ⟨cls, declared⟩ := declares field isField rule isRule asks
      have resolved : ∃ arguments, engine.resolve field.fieldType rule = .ok arguments := by
        rcases rules rule isRule with ⟨built, ruleBuilt⟩ | ⟨-, resolved⟩
        · obtain ⟨factory, arguments, -, resolved, -⟩ := buildRule_eq_ok_iff.mp ruleBuilt
          exact ⟨arguments, resolved⟩
        · exact resolved
      have registered : ∃ validator ∈ records, validator.cls.id = cls.id :=
        there cls ⟨field, isField, declared, rule, isRule, asks⟩
      rw [declared] at resolved ⊢
      have asks : (engine.withRecords records).AsksNested rule := asks
      refine (exists_buildRule_iff_of_asksNested asks).mpr ⟨?_, exists_record?_iff.mpr registered⟩
      obtain ⟨arguments, resolved⟩ := resolved
      rw [resolve_withRecords, resolved]
      exact ⟨_, rfl⟩
    · rw [buildRule_withRecords pure asks]
      exact (rules rule isRule).resolve_right fun nested => asks nested.1

/-! ### One order -/

section OneOrder

variable {rest : List RecordDescription}

/-- What a registration that goes on has done: nothing, if the class was registered, or
    it has built a validator. -/
theorem registerAll_cons_eq_ok_iff :
    engine.registerAll (description :: rest) = .ok last ↔
      (∃ validator, engine.record? description.cls = some validator ∧
        engine.registerAll rest = .ok last) ∨
      (engine.record? description.cls = none ∧ ∃ validator,
        engine.buildRecord description = .ok validator ∧
          (engine.withRecord validator).registerAll rest = .ok last) := by
  have step : engine.registerAll (description :: rest) = .ok last ↔
      ∃ registration, engine.registerRecord description.cls (.ok description) = .ok registration ∧
        registration.engine.registerAll rest = .ok last := by
    rw [registerAll]
    cases engine.registerRecord description.cls (.ok description) <;> simp
  simp only [step, registerRecord_eq_ok_iff]
  constructor
  · rintro ⟨registration, ⟨validator, found, rfl⟩ |
      ⟨fresh, described, validator, same, built, rfl⟩, later⟩
    · exact .inl ⟨validator, found, later⟩
    · obtain rfl := Except.ok.inj same
      exact .inr ⟨fresh, validator, built, later⟩
  · rintro (⟨validator, found, later⟩ | ⟨fresh, validator, built, later⟩)
    · exact ⟨_, .inl ⟨validator, found, rfl⟩, later⟩
    · exact ⟨_, .inr ⟨fresh, description, validator, rfl, built, rfl⟩, later⟩

/-- Registering adds records behind those that are there, and changes nothing else. -/
theorem exists_eq_withRecords_of_registerAll (registered : engine.registerAll descriptions = .ok last) :
    ∃ later, last = engine.withRecords (engine.records ++ later) := by
  induction descriptions generalizing engine with
  | nil =>
    obtain rfl := Except.ok.inj registered
    exact ⟨[], by rw [List.append_nil]; rfl⟩
  | cons description rest ih =>
    rcases registerAll_cons_eq_ok_iff.mp registered with
      ⟨validator, -, registeredRest⟩ | ⟨-, validator, -, registeredRest⟩
    · exact ih registeredRest
    · obtain ⟨later, same⟩ := ih registeredRest
      refine ⟨validator :: later, ?_⟩
      rw [same, withRecord, List.append_assoc]
      rfl

/-- **At the end, each record would be built again as it was built.** -/
theorem settled_of_registerAll (pure : engine.HasPureFactories)
    (registered : engine.registerAll descriptions = .ok last)
    (declares : ∀ description ∈ descriptions, engine.DeclaresTargets description)
    (distinct : descriptions.Pairwise fun first second => first.cls.id ≠ second.cls.id)
    (fresh : ∀ description ∈ descriptions, engine.record? description.cls = none) :
    ∀ description ∈ descriptions, ∃ validator, last.record? description.cls = some validator ∧
      last.buildRecord description = .ok validator := by
  induction descriptions generalizing engine with
  | nil => exact fun description member => nomatch member
  | cons description rest ih =>
    rw [List.forall_mem_cons] at declares fresh ⊢
    rw [List.pairwise_cons] at distinct
    rcases registerAll_cons_eq_ok_iff.mp registered with
      ⟨validator, found, -⟩ | ⟨-, validator, built, registeredRest⟩
    · cases found.symm.trans fresh.1
    have sameClass : validator.cls = description.cls := (buildRecord_eq_ok_iff.mp built).1
    constructor
    · obtain ⟨later, rfl⟩ := exists_eq_withRecords_of_registerAll registeredRest
      have stays : engine.records <+: engine.records ++ [validator] ++ later := by
        rw [List.append_assoc]
        exact List.prefix_append _ _
      have added : (engine.withRecord validator).record? description.cls = some validator := by
        rw [record?_withRecord, fresh.1, sameClass]
        simp
      refine ⟨validator, (List.prefix_append _ _).find?_eq_some added, ?_⟩
      rw [← built]
      symm
      change (engine.withRecords engine.records).buildRecord description = _
      refine buildRecord_withRecords_congr pure declares.1 ?_
      intro cls isTarget
      obtain ⟨target, found⟩ := exists_record?_of_targets built isTarget
      exact found.trans (stays.find?_eq_some found).symm
    · have pure : (engine.withRecord validator).HasPureFactories := pure
      refine ih pure registeredRest declares.2 distinct.2 ?_
      intro later isLater
      rw [record?_withRecord, fresh.2 later isLater, sameClass]
      simp [distinct.1 later isLater]

/-- Each record refers to classes that are known or come before it. -/
def RefersBack (engine : Engine) (known : List Nat) : List RecordDescription → Prop
  | [] => True
  | description :: rest =>
    (∀ cls, engine.Targets description cls → cls.id ∈ known) ∧
      engine.RefersBack (known ++ [description.cls.id]) rest

theorem refersBack_iff {known : List Nat} :
    engine.RefersBack known descriptions ↔
      ∀ before description after, descriptions = before ++ description :: after →
        ∀ cls, engine.Targets description cls →
          cls.id ∈ known ++ before.map (·.cls.id) := by
  induction descriptions generalizing known with
  | nil => simp [RefersBack]
  | cons first rest ih =>
    rw [RefersBack, ih]
    constructor
    · rintro ⟨targets, later⟩ before description after same cls isTarget
      cases before with
      | nil =>
        obtain ⟨rfl, rfl⟩ := List.cons.inj same
        simpa using targets cls isTarget
      | cons head before =>
        obtain ⟨rfl, rfl⟩ := List.cons.inj same
        simpa using later before description after rfl cls isTarget
    · intro each
      constructor
      · intro cls isTarget
        simpa using each [] first rest rfl cls isTarget
      · rintro before description after rfl cls isTarget
        simpa using each (first :: before) description after rfl cls isTarget

/-- **An order succeeds throughout if and only if each record comes after those that it
    refers to**, if everything else is in order. -/
theorem exists_registerAll_iff (pure : engine.HasPureFactories) (records : List RecordValidator)
    (declares : ∀ description ∈ descriptions, engine.DeclaresTargets description)
    (ready : ∀ description ∈ descriptions, engine.OthersBuild description)
    (distinct : descriptions.Pairwise fun first second => first.cls.id ≠ second.cls.id)
    (fresh : ∀ description ∈ descriptions,
      (engine.withRecords records).record? description.cls = none) :
    (∃ last, (engine.withRecords records).registerAll descriptions = .ok last) ↔
      engine.RefersBack (records.map (·.cls.id)) descriptions := by
  induction descriptions generalizing records with
  | nil => simp [registerAll, RefersBack]
  | cons description rest ih =>
    rw [List.forall_mem_cons] at declares ready fresh
    rw [List.pairwise_cons] at distinct
    have targets := exists_buildRecord_iff pure declares.1 ready.1 records
    simp only [← List.mem_map (f := fun validator : RecordValidator => validator.cls.id)] at targets
    have later (validator : RecordValidator)
        (built : (engine.withRecords records).buildRecord description = .ok validator) :
        (∃ last, (engine.withRecords (records ++ [validator])).registerAll rest = .ok last) ↔
          engine.RefersBack (records.map (·.cls.id) ++ [description.cls.id]) rest := by
      have sameClass : validator.cls = description.cls := (buildRecord_eq_ok_iff.mp built).1
      have known := ih (records ++ [validator]) declares.2 ready.2 distinct.2 ?_
      · rw [known, List.map_append, List.map_singleton, sameClass]
      · intro next isNext
        change ((engine.withRecords records).withRecord validator).record? next.cls = none
        rw [record?_withRecord, fresh.2 next isNext, sameClass]
        simp [distinct.1 next isNext]
    rw [RefersBack, ← targets]
    constructor
    · rintro ⟨last, registered⟩
      rcases registerAll_cons_eq_ok_iff.mp registered with
        ⟨validator, found, -⟩ | ⟨-, validator, built, registeredRest⟩
      · cases found.symm.trans fresh.1
      · exact ⟨⟨validator, built⟩, (later validator built).mp ⟨last, registeredRest⟩⟩
    · rintro ⟨⟨validator, built⟩, back⟩
      obtain ⟨last, registeredRest⟩ := (later validator built).mpr back
      exact ⟨last, registerAll_cons_eq_ok_iff.mpr (.inr ⟨fresh.1, validator, built, registeredRest⟩)⟩

end OneOrder

/-! ### Two orders -/

/-- **What an order builds is there in an engine that would build each record again.**
    By induction along the order: the records that the next one refers to were built
    before, so they are there. -/
theorem kept_of_registerAll (pure : engine.HasPureFactories)
    (registered : engine.registerAll descriptions = .ok last)
    (declares : ∀ description ∈ descriptions, engine.DeclaresTargets description)
    {records : List RecordValidator}
    (settled : ∀ description ∈ descriptions, ∃ validator,
      (engine.withRecords records).record? description.cls = some validator ∧
        (engine.withRecords records).buildRecord description = .ok validator)
    (kept : ∀ validator ∈ engine.records,
      (engine.withRecords records).record? validator.cls = some validator) :
    ∀ validator ∈ last.records,
      (engine.withRecords records).record? validator.cls = some validator := by
  induction descriptions generalizing engine with
  | nil =>
    obtain rfl := Except.ok.inj registered
    exact kept
  | cons description rest ih =>
    rw [List.forall_mem_cons] at declares settled
    rcases registerAll_cons_eq_ok_iff.mp registered with
      ⟨validator, -, registeredRest⟩ | ⟨-, validator, built, registeredRest⟩
    · exact ih pure registeredRest declares.2 settled.2 kept
    · have same : engine.buildRecord description =
          (engine.withRecords records).buildRecord description := by
        change (engine.withRecords engine.records).buildRecord description = _
        refine buildRecord_withRecords_congr pure declares.1 ?_
        intro cls isTarget
        obtain ⟨target, found⟩ := exists_record?_of_targets built isTarget
        obtain ⟨member, isClass⟩ := mem_of_record? found
        exact found.trans ((record?_congr isClass).symm.trans (kept target member)).symm
      obtain ⟨⟨again, found, builtAgain⟩, settledRest⟩ := settled
      obtain rfl : validator = again := Except.ok.inj (built.symm.trans (same.trans builtAgain))
      have pure : (engine.withRecord validator).HasPureFactories := pure
      have keptAlong := ih pure registeredRest declares.2 settledRest
      refine keptAlong ?_
      intro other isOther
      rcases List.mem_append.mp isOther with old | added
      · exact kept other old
      · obtain rfl := List.mem_singleton.mp added
        have isClass : other.cls = description.cls := (buildRecord_eq_ok_iff.mp built).1
        exact (congrArg (engine.withRecords records).record? isClass).trans found

theorem record?_eq_some_of_perm {others : List RecordDescription} {first second : Engine}
    (pure : engine.HasPureFactories) (empty : engine.records = [])
    (declares : ∀ description ∈ descriptions, engine.DeclaresTargets description)
    (distinct : descriptions.Pairwise fun first second => first.cls.id ≠ second.cls.id)
    (perm : descriptions.Perm others) (registered : engine.registerAll descriptions = .ok first)
    (registered' : engine.registerAll others = .ok second) {cls : RecordClass}
    {validator : RecordValidator} (found : first.record? cls = some validator) :
    second.record? cls = some validator := by
  obtain ⟨later, rfl⟩ := exists_eq_withRecords_of_registerAll registered'
  have distinct' : others.Pairwise fun first second => first.cls.id ≠ second.cls.id :=
    (perm.pairwise_iff fun different => different.symm).mp distinct
  have settled := settled_of_registerAll pure registered'
    (fun description member => declares description (perm.mem_iff.mpr member)) distinct'
    (fun description _ => by rw [record?, empty]; rfl)
  have kept := kept_of_registerAll pure registered declares
    (fun description member => settled description (perm.mem_iff.mp member))
    (fun validator member => by rw [empty] at member; cases member)
  obtain ⟨member, isClass⟩ := mem_of_record? found
  exact (record?_congr isClass).symm.trans (kept validator member)

/-- **The order of registering records has no part in their verdicts.**  Two orders of
    the same descriptions, which are of different classes, end with the same record
    validators if both succeed throughout: every class of the descriptions is
    registered, and every value is told the same.  An order of descriptions that are
    otherwise in order succeeds throughout if and only if each comes after those of the
    classes that it refers to. -/
theorem registration_order_irrelevant {engine : Engine} (pure : engine.HasPureFactories)
    (empty : engine.records = []) {descriptions : List RecordDescription}
    (declares : ∀ description ∈ descriptions, engine.DeclaresTargets description)
    (distinct : descriptions.Pairwise fun first second => first.cls.id ≠ second.cls.id) :
    (∀ others first second, descriptions.Perm others →
      engine.registerAll descriptions = .ok first → engine.registerAll others = .ok second →
      (∀ description ∈ descriptions, ∃ validator,
        first.record? description.cls = some validator ∧
          second.record? description.cls = some validator) ∧
      ∀ value, first.validate value = second.validate value) ∧
    ((∀ description ∈ descriptions, engine.OthersBuild description) →
      ((∃ last, engine.registerAll descriptions = .ok last) ↔
        ∀ before description after, descriptions = before ++ description :: after →
          ∀ cls, engine.Targets description cls → ∃ earlier ∈ before, earlier.cls.id = cls.id)) := by
  constructor
  · intro others first second perm registered registered'
    have declares' : ∀ description ∈ others, engine.DeclaresTargets description :=
      fun description member => declares description (perm.mem_iff.mpr member)
    have distinct' : others.Pairwise fun first second => first.cls.id ≠ second.cls.id :=
      (perm.pairwise_iff fun different => different.symm).mp distinct
    have forth {cls : RecordClass} {validator : RecordValidator}
        (found : first.record? cls = some validator) : second.record? cls = some validator :=
      record?_eq_some_of_perm pure empty declares distinct perm registered registered' found
    have back {cls : RecordClass} {validator : RecordValidator}
        (found : second.record? cls = some validator) : first.record? cls = some validator :=
      record?_eq_some_of_perm pure empty declares' distinct' perm.symm registered' registered found
    have same (cls : RecordClass) : first.record? cls = second.record? cls :=
      Option.ext fun validator => ⟨forth, back⟩
    constructor
    · intro description member
      obtain ⟨validator, found, -⟩ := settled_of_registerAll pure registered declares distinct
        (fun description _ => by rw [record?, empty]; rfl) description member
      exact ⟨validator, found, forth found⟩
    · intro value
      have sameValidator : first.validatorOf value = second.validatorOf value := by
        cases value <;> simp only [validatorOf, same]
      rw [validate, validate, sameValidator]
  · intro ready
    have asItIs : engine.withRecords [] = engine := by
      rw [withRecords, ← empty]
    have succeeds := exists_registerAll_iff pure [] declares ready distinct
      (fun description _ => rfl)
    rw [asItIs, refersBack_iff] at succeeds
    simpa using succeeds

/-! ### Two kinds of residents -/

def officeClass : RecordClass where
  id := 2
  name := "Office"
  qualifiedName := "Office"
  ancestors := []

def office : RecordDescription where
  cls := officeClass
  fields := [{ name := "seat", fieldType := .record History.addressClass, rules := some "strct()" },
    { name := "staff", fieldType := .plain "int" false, rules := some "min(LOWEST)" }]

/-- An engine that knows the lowest floor, and no records. -/
def floors : Engine :=
  ((History.start true).next (.registerInteger (.text "LOWEST") (.integer 1))).engine

/-- Offices and persons have addresses, so these come first, and the others in any order. -/
theorem registration_order_irrelevant_of_residents :
    (∃ first second, floors.registerAll [History.address, History.person, office] = .ok first ∧
      floors.registerAll [History.address, office, History.person] = .ok second ∧
      ∀ value, first.validate value = second.validate value) ∧
    ¬ ∃ last, floors.registerAll [History.person, History.address, office] = .ok last := by
  have pure : floors.HasPureFactories := (onlyBuiltins_create true).hasPureFactories
  have declares : ∀ description ∈ [History.person, History.address, office],
      floors.DeclaresTargets description := by
    decide +kernel
  have ready : ∀ description ∈ [History.person, History.address, office],
      floors.OthersBuild description := by
    decide +kernel
  constructor
  · have succeeds : ∃ first, floors.registerAll [History.address, History.person, office] =
        .ok first := by
      decide +kernel
    have succeeds' : ∃ second, floors.registerAll [History.address, office, History.person] =
        .ok second := by
      decide +kernel
    obtain ⟨first, registered⟩ := succeeds
    obtain ⟨second, registered'⟩ := succeeds'
    have declares : ∀ description ∈ [History.address, History.person, office],
        floors.DeclaresTargets description := by
      decide +kernel
    have same := (registration_order_irrelevant pure rfl declares (by decide)).1 _ first second
      (.cons _ (.swap _ _ _)) registered registered'
    exact ⟨first, second, registered, registered', same.2⟩
  · intro succeeds
    have ordered := ((registration_order_irrelevant pure rfl declares (by decide)).2 ready).mp
      succeeds [] History.person [History.address, office] rfl History.addressClass
    obtain ⟨earlier, member, -⟩ := ordered (by decide +kernel)
    cases member

end Engine

end FieldRules
