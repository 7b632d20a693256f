/-
  FieldRules/Proofs/Engine/Problems.lean
  ======================================
  **Building ends at the first problem, and calls no factory behind it.**

  A record is built field by field and a field rule by rule, so what is told of
  several problems is the first: of the first field that has one, a fault in its text if
  there is one, and otherwise what is wrong with its first rule that is not provided
  for.  Within a rule there is an order too: a name without a factory, then a symbol
  without a constant, then the refusal of the factory (`RuleProblem`).

  Which factories are called on the way cannot be seen from what is built.  So building is
  told a second time with its calls (`Traced`); its result is the same
  (`result_traceRecord`), and up to the first problem each rule leads to one call.
-/
import FieldRules.Proofs.Engine.Resolving

namespace FieldRules

/-! ### Building with its calls -/

structure FactoryCall where
  factory : Factory
  arguments : RuleArguments

/-- What an onlooker sees of building: the calls of factories, in order, and what comes of them. -/
structure Traced (α : Type) where
  calls : List FactoryCall
  result : Except BuildFault α

namespace Traced

variable {α β : Type}

def quiet (result : Except BuildFault α) : Traced α := ⟨[], result⟩

def call (rule : String) (made : FactoryCall) : Traced (Option Validator) :=
  ⟨[made], (made.factory.build made.arguments).mapError (.factory rule)⟩

/-- Goes on with what came of it, if nothing went wrong. -/
def andThen (first : Traced α) (next : α → Traced β) : Traced β :=
  match first.result with
  | .error fault => ⟨first.calls, .error fault⟩
  | .ok value => ⟨first.calls ++ (next value).calls, (next value).result⟩

def map (change : α → β) (traced : Traced α) : Traced β :=
  ⟨traced.calls, traced.result.map change⟩

def each (trace : α → Traced β) : List α → Traced (List β)
  | [] => quiet (.ok [])
  | item :: rest => (trace item).andThen fun value => (each trace rest).map (value :: ·)

variable {trace : α → Traced β} {item : α} {items rest : List α} {calls : List FactoryCall}
  {fault : BuildFault}

theorem result_map {change : α → β} {traced : Traced α} :
    (traced.map change).result = traced.result.map change := rfl

theorem result_each_cons :
    (each trace (item :: rest)).result =
      match (trace item).result with
      | .error fault => .error fault
      | .ok value => (each trace rest).result.map (value :: ·) := by
  rw [each, andThen]
  cases (trace item).result <;> rfl

theorem map_eq_error_iff {change : α → β} {traced : Traced α} :
    traced.map change = ⟨calls, .error fault⟩ ↔ traced = ⟨calls, .error fault⟩ := by
  obtain ⟨made, result⟩ := traced
  rw [map, mk.injEq, mk.injEq, FieldRules.map_eq_error_iff]

/-- Where items are gone through to the end, the calls are those of all of them. -/
theorem calls_each {values : List β} (done : (each trace items).result = .ok values) :
    (each trace items).calls = items.flatMap fun item => (trace item).calls := by
  induction items generalizing values with
  | nil => rfl
  | cons item rest ih =>
    unfold each andThen at done ⊢
    cases first : (trace item).result with
    | error fault =>
      rw [first] at done
      cases done
    | ok value =>
      rw [first] at done
      obtain ⟨others, later, -⟩ := map_eq_ok_iff.mp done
      rw [List.flatMap_cons, ← ih later]
      rfl

/-- **Going through items ends at the first with which something goes wrong**, after the calls of
    those in front and its own. -/
theorem each_eq_error_iff :
    each trace items = ⟨calls, .error fault⟩ ↔
      ∃ before item after own, items = before ++ item :: after ∧
        (∀ earlier ∈ before, ∃ value, (trace earlier).result = .ok value) ∧
        trace item = ⟨own, .error fault⟩ ∧
        (before.flatMap fun earlier => (trace earlier).calls) ++ own = calls := by
  induction items generalizing calls with
  | nil =>
    refine iff_of_false (fun same => ?_) ?_
    · cases (mk.inj same).2
    · rintro ⟨before, item, after, own, split, -⟩
      exact absurd split (by simp)
  | cons head rest ih =>
    unfold each andThen
    cases first : (trace head).result with
    | error other =>
      constructor
      · rintro ⟨⟩
        refine ⟨[], head, rest, (trace head).calls, rfl, List.forall_mem_nil _, ?_, rfl⟩
        rw [← first]
      · rintro ⟨_ | ⟨earlier, before⟩, item, after, own, split, succeed, fails, rfl⟩
        · obtain ⟨rfl, -⟩ := List.cons.inj split
          rw [fails] at first ⊢
          cases first
          rfl
        · obtain ⟨rfl, -⟩ := List.cons.inj split
          obtain ⟨value, succeeds⟩ := succeed head List.mem_cons_self
          cases first.symm.trans succeeds
    | ok value =>
      constructor
      · intro same
        obtain ⟨rfl, fails⟩ := mk.inj same
        have mapped : (each trace rest).map (value :: ·) =
            ⟨(each trace rest).calls, .error fault⟩ := by
          rw [map, mk.injEq]
          exact ⟨rfl, fails⟩
        have later := map_eq_error_iff.mp mapped
        obtain ⟨before, item, after, own, rfl, succeed, itemFails, made⟩ := ih.mp later
        refine ⟨head :: before, item, after, own, rfl,
          List.forall_mem_cons.mpr ⟨⟨value, first⟩, succeed⟩, itemFails, ?_⟩
        rw [List.flatMap_cons, List.append_assoc, made]
        rfl
      · rintro ⟨_ | ⟨earlier, before⟩, item, after, own, split, succeed, fails, rfl⟩
        · obtain ⟨rfl, -⟩ := List.cons.inj split
          rw [fails] at first
          cases first
        · obtain ⟨rfl, rfl⟩ := List.cons.inj split
          rw [List.forall_mem_cons] at succeed
          have later := ih.mpr ⟨before, item, after, own, rfl, succeed.2, fails, rfl⟩
          rw [later, List.flatMap_cons, List.append_assoc]
          rfl

end Traced

namespace Engine

variable {engine : Engine} {type : FieldType} {rule : Rule} {rules : List Rule}
  {field : FieldDescription} {description : RecordDescription} {calls : List FactoryCall}
  {fault : BuildFault}

def traceRule (engine : Engine) (type : FieldType) (rule : Rule) : Traced (Option Validator) :=
  (Traced.quiet (engine.factory rule.name)).andThen fun factory =>
    (Traced.quiet (engine.resolve type rule)).andThen fun arguments =>
      Traced.call rule.name ⟨factory, arguments⟩

def traceField (engine : Engine) (field : FieldDescription) : Traced Validator :=
  (Traced.quiet ((Rule.parse (field.rules.getD "")).mapError .malformed)).andThen fun rules =>
    (Traced.each (engine.traceRule field.fieldType) rules).map fun validators =>
      let validator := Validator.withField (some (Validator.chain validators)) field.name
      if field.optional then .optional validator else validator

def traceRecord (engine : Engine) (description : RecordDescription) : Traced RecordValidator :=
  (Traced.each (fun field => (engine.traceField field).map (field.name, ·))
    description.validatedFields).map fun fields => { cls := description.cls, fields := fields }

/-! ### Building is the same without its calls -/

theorem result_traceRule : (engine.traceRule type rule).result = engine.buildRule type rule := by
  unfold traceRule buildRule Traced.andThen Traced.quiet
  cases engine.factory rule.name with
  | error fault => rfl
  | ok factory =>
    cases engine.resolve type rule with
    | error fault => rfl
    | ok arguments =>
      dsimp only [Traced.call]
      cases factory.build arguments <;> rfl

theorem result_traceRules :
    (Traced.each (engine.traceRule type) rules).result = engine.buildRules type rules := by
  induction rules with
  | nil => rfl
  | cons rule rest ih =>
    rw [Traced.result_each_cons, result_traceRule, ih, buildRules]
    cases engine.buildRule type rule with
    | error fault => rfl
    | ok validator => cases engine.buildRules type rest <;> rfl

theorem result_traceField : (engine.traceField field).result = engine.buildField field := by
  unfold traceField buildField Traced.andThen Traced.quiet
  cases Rule.parse (field.rules.getD "") with
  | error fault => rfl
  | ok rules =>
    dsimp only [Except.mapError]
    rw [Traced.result_map, result_traceRules]
    cases engine.buildRules field.fieldType rules <;> rfl

/-- **Building a record comes to the same** whether its calls are told or not. -/
theorem result_traceRecord :
    (engine.traceRecord description).result = engine.buildRecord description := by
  have fields (fields : List FieldDescription) :
      (Traced.each (fun field => (engine.traceField field).map (field.name, ·)) fields).result =
        engine.buildFields fields := by
    induction fields with
    | nil => rfl
    | cons field rest ih =>
      rw [Traced.result_each_cons, Traced.result_map, result_traceField, ih, buildFields]
      cases engine.buildField field with
      | error fault => rfl
      | ok validator => cases engine.buildFields rest <;> rfl
  rw [traceRecord, Traced.result_map, fields, buildRecord]
  cases engine.buildFields description.validatedFields <;> rfl

/-! ### Problems -/

/-- What a rule that is provided for leads to: one call of its factory. -/
def callsFor (engine : Engine) (type : FieldType) (rule : Rule) : List FactoryCall :=
  (engine.factory? rule.name).toList.map fun factory => ⟨factory, engine.argumentsOf type rule⟩

/-- What is wrong with a rule, and the calls that it takes to find that out.  Only a factory that
    refuses the arguments is called. -/
inductive RuleProblem (engine : Engine) (type : FieldType) (rule : Rule) :
    List FactoryCall → BuildFault → Prop
  | unknownRule (unknown : engine.factory? rule.name = none) :
    RuleProblem engine type rule [] (.unknownRule rule.name engine.factories.sortedNames)
  | unknownConstant {factory : Factory} {symbol : String}
      (known : engine.factory? rule.name = some factory)
      (leftmost : rule.arguments.symbols.find? (!engine.constants.has ·) = some symbol) :
    RuleProblem engine type rule [] (.unknownConstant symbol)
  | refused {factory : Factory} {reason : FactoryFault}
      (known : engine.factory? rule.name = some factory)
      (resolved : rule.arguments.symbols.find? (!engine.constants.has ·) = none)
      (refuses : factory.build (engine.argumentsOf type rule) = .error reason) :
    RuleProblem engine type rule [⟨factory, engine.argumentsOf type rule⟩]
      (.factory rule.name reason)

/-- What is wrong with a field: its text, or the first of its rules that is not provided for. -/
inductive FieldProblem (engine : Engine) (field : FieldDescription) :
    List FactoryCall → BuildFault → Prop
  | malformed {fault : SyntaxFault} (unread : Rule.parse (field.rules.getD "") = .error fault) :
    FieldProblem engine field [] (.malformed fault)
  | rule {before after : List Rule} {rule : Rule} {calls : List FactoryCall} {fault : BuildFault}
      (read : Rule.parse (field.rules.getD "") = .ok (before ++ rule :: after))
      (provided : ∀ earlier ∈ before, engine.Provides field.fieldType earlier)
      (problem : RuleProblem engine field.fieldType rule calls fault) :
    FieldProblem engine field (before.flatMap (engine.callsFor field.fieldType) ++ calls) fault

def SuppliesField (engine : Engine) (field : FieldDescription) : Prop :=
  ∃ rules, Rule.parse (field.rules.getD "") = .ok rules ∧
    ∀ rule ∈ rules, engine.Provides field.fieldType rule

def callsForField (engine : Engine) (field : FieldDescription) : List FactoryCall :=
  field.readRules.flatMap (engine.callsFor field.fieldType)

/-- What is wrong with a description: that of the first field with a problem. -/
inductive FirstProblem (engine : Engine) (description : RecordDescription) :
    List FactoryCall → BuildFault → Prop
  | field {before after : List FieldDescription} {field : FieldDescription}
      {calls : List FactoryCall} {fault : BuildFault}
      (split : description.validatedFields = before ++ field :: after)
      (supplied : ∀ earlier ∈ before, engine.SuppliesField earlier)
      (problem : FieldProblem engine field calls fault) :
    FirstProblem engine description (before.flatMap engine.callsForField ++ calls) fault

theorem traceRule_eq_error_iff :
    engine.traceRule type rule = ⟨calls, .error fault⟩ ↔
      engine.RuleProblem type rule calls fault := by
  unfold traceRule Traced.andThen Traced.quiet
  constructor
  · intro traced
    cases known : engine.factory rule.name with
    | error other =>
      rw [known] at traced
      cases traced
      rw [eq_unknownRule_of_factory known]
      refine .unknownRule ?_
      cases found : engine.factory? rule.name with
      | none => rfl
      | some factory => cases known.symm.trans (factory_eq_ok_iff.mpr found)
    | ok factory =>
      cases resolved : engine.resolve type rule with
      | error other =>
        rw [known, resolved] at traced
        cases traced
        obtain ⟨symbol, leftmost, rfl⟩ := resolve_eq_error_iff.mp resolved
        exact .unknownConstant (factory_eq_ok_iff.mp known) leftmost
      | ok arguments =>
        rw [known, resolved] at traced
        obtain ⟨stand, rfl⟩ := resolve_eq_ok_iff.mp resolved
        dsimp only [Traced.call, List.nil_append] at traced
        cases built : factory.build (engine.argumentsOf type rule) with
        | ok validator =>
          rw [built] at traced
          cases traced
        | error reason =>
          rw [built] at traced
          cases traced
          exact .refused (factory_eq_ok_iff.mp known)
            (Constants.find?_not_has_eq_none_iff.mpr stand) built
  · rintro (unknown | ⟨known, leftmost⟩ | ⟨known, resolved, refuses⟩)
    · rw [Engine.factory, unknown]
    · rw [factory_eq_ok_iff.mpr known, resolve_eq_error_iff.mpr ⟨_, leftmost, rfl⟩]
      rfl
    · have stand := Constants.find?_not_has_eq_none_iff.mp resolved
      rw [factory_eq_ok_iff.mpr known, resolve_eq_ok_iff.mpr ⟨stand, rfl⟩]
      dsimp only [Traced.call]
      rw [refuses]
      rfl

theorem calls_traceRule_of_provides (provides : engine.Provides type rule) :
    (engine.traceRule type rule).calls = engine.callsFor type rule := by
  obtain ⟨stand, factory, known, -⟩ := provides
  unfold traceRule callsFor Traced.andThen Traced.quiet
  rw [factory_eq_ok_iff.mpr known, resolve_eq_ok_iff.mpr ⟨stand, rfl⟩, known]
  rfl

theorem exists_result_traceRule_iff :
    (∃ built, (engine.traceRule type rule).result = .ok built) ↔ engine.Provides type rule := by
  rw [result_traceRule, exists_buildRule_iff]

theorem flatMap_calls_traceRule (provided : ∀ rule ∈ rules, engine.Provides type rule) :
    (rules.flatMap fun rule => (engine.traceRule type rule).calls) =
      rules.flatMap (engine.callsFor type) :=
  List.flatMap_congr fun rule member => calls_traceRule_of_provides (provided rule member)

theorem traceField_eq_error_iff :
    engine.traceField field = ⟨calls, .error fault⟩ ↔ engine.FieldProblem field calls fault := by
  unfold traceField Traced.andThen Traced.quiet
  cases read : Rule.parse (field.rules.getD "") with
  | error problem =>
    dsimp only [Except.mapError]
    constructor
    · rintro ⟨⟩
      exact .malformed read
    · rintro (unread | ⟨readAll, -, -⟩)
      · cases read.symm.trans unread
        rfl
      · cases read.symm.trans readAll
  | ok rules =>
    dsimp only [Except.mapError, List.nil_append]
    refine Traced.map_eq_error_iff.trans (Traced.each_eq_error_iff.trans ?_)
    simp only [exists_result_traceRule_iff, traceRule_eq_error_iff]
    constructor
    · rintro ⟨before, rule, after, own, rfl, provided, problem, rfl⟩
      rw [flatMap_calls_traceRule provided]
      exact .rule read provided problem
    · rintro (unread | ⟨readAll, provided, problem⟩)
      · cases read.symm.trans unread
      · cases read.symm.trans readAll
        exact ⟨_, _, _, _, rfl, provided, problem, by rw [flatMap_calls_traceRule provided]⟩

theorem exists_result_traceField_iff :
    (∃ validator, (engine.traceField field).result = .ok validator) ↔
      engine.SuppliesField field := by
  rw [result_traceField, exists_buildField_iff]
  simp only [exists_buildRule_iff]
  rfl

theorem calls_traceField_of_supplies (supplies : engine.SuppliesField field) :
    (engine.traceField field).calls = engine.callsForField field := by
  obtain ⟨rules, read, provided⟩ := id supplies
  obtain ⟨validator, built⟩ := exists_result_traceField_iff.mpr supplies
  unfold traceField Traced.andThen Traced.quiet at built ⊢
  rw [read] at built ⊢
  obtain ⟨validators, all, -⟩ := map_eq_ok_iff.mp built
  rw [callsForField, FieldDescription.readRules, read, ← flatMap_calls_traceRule provided]
  exact Traced.calls_each all

theorem traceRecord_eq_error_iff :
    engine.traceRecord description = ⟨calls, .error fault⟩ ↔
      engine.FirstProblem description calls fault := by
  have named (earlier : FieldDescription) :
      (∃ entry, ((engine.traceField earlier).map (earlier.name, ·)).result = .ok entry) ↔
        engine.SuppliesField earlier := by
    rw [← exists_result_traceField_iff, Traced.map]
    cases (engine.traceField earlier).result <;> simp [Except.map]
  refine Traced.map_eq_error_iff.trans (Traced.each_eq_error_iff.trans ?_)
  simp only [named, Traced.map_eq_error_iff, traceField_eq_error_iff]
  have sameCalls {before : List FieldDescription}
      (supplied : ∀ earlier ∈ before, engine.SuppliesField earlier) :
      (before.flatMap fun earlier => ((engine.traceField earlier).map (earlier.name, ·)).calls) =
        before.flatMap engine.callsForField :=
    List.flatMap_congr fun earlier member => calls_traceField_of_supplies (supplied earlier member)
  constructor
  · rintro ⟨before, field, after, own, split, supplied, problem, rfl⟩
    rw [sameCalls supplied]
    exact .field split supplied problem
  · rintro ⟨split, supplied, problem⟩
    exact ⟨_, _, _, _, split, supplied, problem, by rw [sameCalls supplied]⟩

/-- **A record is built exactly where the engine has all that its fields ask for, and otherwise
    the first problem is told.**  Fields come in the order of their declaration.  Of the first
    field with a problem, a fault in its text is told before anything else, and otherwise
    what is wrong with its first rule that is not provided for: a name without a
    factory before the leftmost symbol without a constant, and this before the refusal of the
    factory.  The calls on the way are those for the rules in front of this one, and its own
    if it is its factory that refuses; no factory is called for a later rule or field. -/
theorem building_ends_at_first_problem (engine : Engine) (description : RecordDescription) :
    ((∃ validator, engine.buildRecord description = .ok validator) ↔
      engine.Supplies description) ∧
    (∀ fault, engine.buildRecord description = .error fault ↔
      ∃ calls, engine.FirstProblem description calls fault) ∧
    (engine.traceRecord description).result = engine.buildRecord description ∧
    ∀ calls fault, engine.traceRecord description = ⟨calls, .error fault⟩ ↔
      engine.FirstProblem description calls fault := by
  refine ⟨exists_buildRecord_iff_supplies, fun fault => ?_, result_traceRecord,
    fun calls fault => traceRecord_eq_error_iff⟩
  rw [← result_traceRecord]
  simp only [← traceRecord_eq_error_iff]
  constructor
  · intro fails
    exact ⟨_, by rw [← fails]⟩
  · rintro ⟨calls, traced⟩
    rw [traced]

end Engine

end FieldRules
