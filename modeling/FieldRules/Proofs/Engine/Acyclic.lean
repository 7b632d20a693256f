/-
  FieldRules/Proofs/Engine/Acyclic.lean
  =====================================
  **Record validators never go round in a circle.**

  A built validator refers to records of the engine that it was built in, and is
  put behind them.  So the number of records that were there before a record was
  registered is a rank: it falls along every reference.  Hence no class leads
  back to itself, and a run has as many record validators at work inside of one
  another as the rank allows, whatever objects it meets.  The names that it puts in
  front of a failure are as many at most; the failure itself may come from a check of
  the application with a path of its own, of any length.
-/
import FieldRules.Proofs.Engine.History
import FieldRules.Proofs.Validator.Nesting
import Mathlib.Logic.Relation

namespace FieldRules

namespace Engine

variable {engine : Engine} {description : RecordDescription} {validator : RecordValidator}

/-! ### What a built validator refers to -/

/-- What holds of all that can be built for a rule, and of chains of it, holds of
    what a field puts its name in front of. -/
theorem chain_of_buildField {motive : Validator → Prop} {field : FieldDescription}
    {built : Validator} (ready : engine.buildField field = .ok built) (always : motive .always)
    (both : ∀ first second, motive first → motive second → motive (.both first second))
    (plain : ∀ validator, Plain (some validator) → motive validator)
    (record : ∀ target ∈ engine.records, motive target.toValidator) :
    ∃ inner, motive inner ∧
      (built = .inField field.name inner ∨ built = .optional (.inField field.name inner)) := by
  obtain ⟨rules, validators, -, rulesBuilt, shape⟩ := buildField_eq_ok_iff.mp ready
  refine ⟨Validator.chain validators, ?_, ?_⟩
  · apply Validator.chain_induction always both
    rintro next isNext inner rfl
    obtain ⟨rule, -, ruleBuilt⟩ := exists_left_of_forall₂ (buildRules_eq_ok_iff.mp rulesBuilt) isNext
    rcases buildRule_cases ruleBuilt with
      ⟨factory, arguments, -, -, -, -, isPlain⟩ | ⟨arguments, target, -, -, -, isRecord, same⟩
    · exact plain inner isPlain
    · cases same
      exact record target isRecord
  · rw [← shape]
    cases field.optional with
    | false => exact .inl rfl
    | true => exact .inr rfl

/-- **A built field refers to records that are registered.** -/
theorem nested_subset_of_buildField {field : FieldDescription} {built : Validator}
    (ready : engine.buildField field = .ok built) :
    ∀ target ∈ built.nested, target ∈ engine.records := by
  obtain ⟨inner, refers, rfl | rfl⟩ := chain_of_buildField
    (motive := fun inner => ∀ target ∈ inner.nested, target ∈ engine.records) ready
    (fun target absent => nomatch absent)
    (fun first second inFirst inSecond target isTarget =>
      (List.mem_append.mp isTarget).elim (inFirst target) (inSecond target))
    (fun inner isPlain target isTarget => by cases isPlain <;> cases isTarget)
    (fun record isRecord target isTarget => List.mem_singleton.mp isTarget ▸ isRecord)
  · exact refers
  · exact refers

/-- A built field puts its own name in front of a path, and no other. -/
theorem labels_eq_of_buildField {field : FieldDescription} {built : Validator}
    (ready : engine.buildField field = .ok built) : built.labels = 1 := by
  obtain ⟨inner, zero, rfl | rfl⟩ := chain_of_buildField (motive := fun inner => inner.labels = 0)
    ready rfl (fun first second zero zero' => by rw [Validator.labels, zero, zero']; rfl)
    (fun inner isPlain => by cases isPlain <;> rfl) (fun _ _ => rfl)
  · rw [Validator.labels, zero]
  · rw [Validator.labels, Validator.labels, zero]

/-- **A built validator refers to records that are registered.** -/
theorem nested_subset_of_buildRecord (built : engine.buildRecord description = .ok validator) :
    ∀ target ∈ validator.nested, target ∈ engine.records := by
  intro target isTarget
  obtain ⟨field, member, inField⟩ := List.mem_flatMap.mp isTarget
  obtain ⟨described, -, -, ready⟩ := exists_left_of_forall₂ (buildRecord_eq_ok_iff.mp built).2 member
  exact nested_subset_of_buildField ready target inField

/-- Each field of a built validator puts its own name in front of a path, and no other. -/
theorem labels_le_of_buildRecord (built : engine.buildRecord description = .ok validator) :
    ∀ field ∈ validator.fields, field.2.labels ≤ 1 := by
  intro field member
  obtain ⟨described, -, -, ready⟩ := exists_left_of_forall₂ (buildRecord_eq_ok_iff.mp built).2 member
  exact Nat.le_of_eq (labels_eq_of_buildField ready)

/-- The class of the first number has rules about nested records that refer to the
    class of the second. -/
def Nests (engine : Engine) (outer inner : Nat) : Prop :=
  ∃ validator ∈ engine.records, validator.cls.id = outer ∧
    ∃ target ∈ validator.nested, target.cls.id = inner

/-- The checks of an application that the registered records make. -/
def checks (engine : Engine) : List (Value → Outcome) :=
  engine.records.flatMap (·.checks)

def place (engine : Engine) (id : Nat) : Nat := engine.records.findIdx (·.cls.id == id)

end Engine

namespace History

variable {history past : History} {description : RecordDescription} {validator : RecordValidator}

/-! ### Ranks -/

theorem Registered.nested_subset (registered : history.Registered past description validator) :
    ∀ target ∈ validator.nested, target ∈ past.engine.records :=
  Engine.nested_subset_of_buildRecord registered.built

theorem Registered.rank_lt (registered : history.Registered past description validator) :
    past.engine.records.length < history.engine.records.length := by
  have shorter := registered.records_isPrefix.length_le
  rw [List.length_append] at shorter
  exact shorter

theorem Registered.place_eq (registered : history.Registered past description validator) :
    history.engine.place validator.cls.id = past.engine.records.length := by
  obtain ⟨later, records⟩ := registered.records_isPrefix
  have before : past.engine.records.findIdx (·.cls.id == validator.cls.id) =
      past.engine.records.length := by
    refine List.findIdx_eq_length.mpr fun other member => ?_
    simpa using registered.ne_of_mem other member
  rw [Engine.place, ← records, List.append_assoc, List.findIdx_append, before]
  simp [List.findIdx_cons]

theorem place_lt_of_nests {outer inner : Nat} (nests : history.engine.Nests outer inner) :
    history.engine.place inner < history.engine.place outer := by
  obtain ⟨validator, member, rfl, target, isTarget, rfl⟩ := nests
  obtain ⟨past, description, registered⟩ := exists_registered member
  obtain ⟨later, records⟩ := registered.records_isPrefix
  rw [registered.place_eq, Engine.place, ← records, List.append_assoc, List.findIdx_append]
  have earlier : past.engine.records.findIdx (·.cls.id == target.cls.id) <
      past.engine.records.length :=
    List.findIdx_lt_length_of_exists ⟨target, registered.nested_subset target isTarget, by simp⟩
  rw [if_pos earlier]
  exact earlier

theorem place_lt_of_transGen {outer inner : Nat}
    (leads : Relation.TransGen history.engine.Nests outer inner) :
    history.engine.place inner < history.engine.place outer := by
  induction leads with
  | single nests => exact place_lt_of_nests nests
  | tail _ nests ih => exact Nat.lt_trans (place_lt_of_nests nests) ih

/-! ### Depth and names -/

variable {graph : ObjectGraph}

/-- **A run keeps the limit of its rank.**  By induction on the rank: the records
    that a record refers to have smaller ones. -/
theorem Registered.isSome_runWithin (registered : history.Registered past description validator)
    {depth : Nat} (enough : past.engine.records.length < depth) (object : graph.Object) :
    (Validator.runWithin graph validator.toValidator depth object).isSome := by
  induction depth generalizing history past description validator object with
  | zero => exact absurd enough (Nat.not_lt_zero _)
  | succ depth ih =>
    refine Validator.isSome_runWithin_succ (fun target isTarget object => ?_) object
    obtain ⟨earlier, inner, innerRegistered⟩ :=
      exists_registered (registered.nested_subset target isTarget)
    have smaller := innerRegistered.rank_lt
    exact ih innerRegistered (by omega) object

/-- **A failure carries no more names than the rank allows**, in front of those that
    a check of the application puts into its failures. -/
theorem Registered.namesAtMost (registered : history.Registered past description validator)
    {given : List String → Prop}
    (own : ∀ other ∈ history.engine.records, Validator.OwnPaths graph given other.checks)
    {depth : Nat} {object : graph.Object} {outcome : Outcome}
    (shown : Validator.runWithin graph validator.toValidator depth object = some outcome) :
    outcome.NamesAtMost given (past.engine.records.length + 1) := by
  induction depth generalizing history past description validator object outcome with
  | zero => cases shown
  | succ depth ih =>
    have member : validator ∈ history.engine.records :=
      registered.records_isPrefix.subset (List.mem_append_right _ List.mem_cons_self)
    have stays : ∀ other ∈ past.engine.records, other ∈ history.engine.records := by
      intro other isOther
      exact registered.records_isPrefix.subset (List.mem_append_left _ isOther)
    have single := Engine.labels_le_of_buildRecord registered.built
    refine Validator.namesAtMost_runWithin_succ single ?_ (own validator member) shown
    intro target isTarget object outcome shownInner
    obtain ⟨earlier, inner, innerRegistered⟩ :=
      exists_registered (registered.nested_subset target isTarget)
    have smaller := innerRegistered.rank_lt
    have ownEarlier : ∀ other ∈ past.engine.records,
        Validator.OwnPaths graph given other.checks := by
      intro other isOther
      exact own other (stays other isOther)
    exact (ih innerRegistered ownEarlier shownInner).mono (by omega)

/-- A run of a validator keeps the limit of the records that it refers to, and its
    failures carry as many names at most in front of those that it puts there itself. -/
theorem exists_runWithin_of_nested {inner : Validator}
    (nested : ∀ target ∈ inner.nested, target ∈ history.engine.records) (object : graph.Object) :
    ∃ outcome, Validator.runWithin graph inner history.engine.records.length object =
        some outcome ∧
      outcome.NamesAtMost (Validator.GivenPath graph (inner.checks ++ history.engine.checks))
        (inner.labels + history.engine.records.length) := by
  have ends : (Validator.runWithin graph inner history.engine.records.length object).isSome := by
    refine Validator.isSome_runWithin inner (fun target isTarget object => ?_) object
    obtain ⟨past, description, registered⟩ := exists_registered (nested target isTarget)
    exact registered.isSome_runWithin registered.rank_lt object
  obtain ⟨outcome, shown⟩ := Option.isSome_iff_exists.mp ends
  refine ⟨outcome, shown, Validator.namesAtMost_runWithin inner ?_ ?_ shown⟩
  · intro target isTarget object outcome shownInner
    obtain ⟨past, description, registered⟩ := exists_registered (nested target isTarget)
    refine (registered.namesAtMost (fun other isOther => ?_) shownInner).mono registered.rank_lt
    refine Validator.ownPaths_of_subset fun judge isCheck => List.mem_append_right _ ?_
    exact List.mem_flatMap.mpr ⟨other, isOther, isCheck⟩
  · exact Validator.ownPaths_of_subset fun judge isCheck => List.mem_append_left _ isCheck

/-- **Nesting is bounded.**  After any operations on an engine, every record
    validator refers to validators that were registered before it, so that no class
    leads back to itself.  On the objects of any graph, a run ends with at most as
    many record validators inside of one another as there are records, and a failure
    carries at most as many names in front of those with which a check of the
    application gave it back: so its path has at most as many names, unless such a
    check gives paths of its own.  A validator that is compiled from text puts one name
    more in front, its own.  On values, this run is the run of the validator. -/
theorem nesting_bounded (history : History) :
    (∀ validator ∈ history.engine.records, ∃ before,
      before ++ [validator] <+: history.engine.records ∧
        ∀ target ∈ validator.nested, target ∈ before) ∧
    (∀ id, ¬ Relation.TransGen history.engine.Nests id id) ∧
    (∀ validator ∈ history.engine.records, ∀ (graph : ObjectGraph) (object : graph.Object),
      ∃ outcome, Validator.runWithin graph validator.toValidator history.engine.records.length
          object = some outcome ∧
        outcome.NamesAtMost (Validator.GivenPath graph history.engine.checks)
          history.engine.records.length) ∧
    (∀ graph, (∀ own, Validator.GivenPath graph history.engine.checks own → own = []) →
      ∀ validator ∈ history.engine.records, ∀ object outcome failure,
        Validator.runWithin graph validator.toValidator history.engine.records.length object =
            some outcome → outcome.verdict = .ok (some failure) →
          failure.path.length ≤ history.engine.records.length) ∧
    (∀ text type name validator, history.engine.compile text type name = .ok validator →
      ∀ (graph : ObjectGraph) (object : graph.Object),
        ∃ outcome, Validator.runWithin graph validator history.engine.records.length object =
            some outcome ∧
          outcome.NamesAtMost
            (Validator.GivenPath graph (validator.checks ++ history.engine.checks))
            (1 + history.engine.records.length)) ∧
    (∀ validator ∈ history.engine.records, ∀ value,
      Validator.runWithin .values validator.toValidator history.engine.records.length value =
        some (validator.run value)) := by
  have limit : ∀ validator ∈ history.engine.records, ∀ (graph : ObjectGraph)
      (object : graph.Object), ∃ outcome,
        Validator.runWithin graph validator.toValidator history.engine.records.length object =
            some outcome ∧
          outcome.NamesAtMost (Validator.GivenPath graph history.engine.checks)
            history.engine.records.length := by
    intro validator member graph object
    have itself : ∀ target ∈ validator.toValidator.nested, target ∈ history.engine.records := by
      intro target isTarget
      rwa [List.mem_singleton.mp isTarget]
    have bounded := exists_runWithin_of_nested itself object
    rwa [RecordValidator.toValidator, Validator.labels, Nat.zero_add] at bounded
  refine ⟨?_, ?_, limit, ?_, ?_, ?_⟩
  · intro validator member
    obtain ⟨past, description, registered⟩ := exists_registered member
    exact ⟨past.engine.records, registered.records_isPrefix, registered.nested_subset⟩
  · intro id leads
    exact Nat.lt_irrefl _ (place_lt_of_transGen leads)
  · intro graph bare validator member object outcome failure shown failed
    obtain ⟨other, ends, carried⟩ := limit validator member graph object
    obtain rfl : other = outcome := Option.some.inj (ends.symm.trans shown)
    obtain ⟨names, own, path, few, origin⟩ := carried failure failed
    have none : own = [] := origin.elim id (bare own)
    rwa [path, none, List.append_nil]
  · intro text type name validator built graph object
    have bounded := exists_runWithin_of_nested (Engine.nested_subset_of_buildField built) object
    rwa [Engine.labels_eq_of_buildField built] at bounded
  · intro validator member value
    obtain ⟨outcome, shown, -⟩ := limit validator member .values value
    rw [shown, ← Validator.runWithin_values _ _ value outcome shown]
    rfl

/-- A person who is an address as well, and whose every attribute is that person again. -/
def ownHome : ObjectGraph where
  Object := Unit
  view _ := .record { personClass with ancestors := [addressClass.id] } []
  attribute? _ _ := some ()
  consult judge _ := judge .none

/-- The person is taken for an address, and the address then fails for its floor. -/
theorem nesting_bounded_of_own_home :
    ∃ validator ∈ residents.engine.records, validator.cls.id = personClass.id ∧
      ∃ outcome, Validator.runWithin ownHome validator.toValidator residents.engine.records.length
          () = some outcome ∧
        outcome.verdict = .ok (some
          { cause := .wrongKind "an integer" "Person"
            fieldName := "home"
            path := ["home", "floor"] }) := by
  have told : (residents.engine.record? personClass).map (fun validator =>
      (Validator.runWithin ownHome validator.toValidator residents.engine.records.length ()).map
        (·.verdict)) =
      some (some (.ok (some
        { cause := .wrongKind "an integer" "Person"
          fieldName := "home"
          path := ["home", "floor"] }))) := by
    decide +kernel
  obtain ⟨validator, found, shown⟩ := Option.map_eq_some_iff.mp told
  have member := List.mem_of_find?_eq_some found
  have same := List.find?_some found
  obtain ⟨outcome, ends, -⟩ := (nesting_bounded residents).2.2.1 validator member ownHome ()
  rw [ends] at shown
  exact ⟨validator, member, beq_iff_eq.mp same, outcome, ends, Option.some.inj shown⟩

/-- A rule of an application whose failures come with a path of three names. -/
def placing : CustomFactory where
  tag := "placing"
  build _ := .ok (some fun _ =>
    { verdict := .ok (some { cause := .stated "misplaced" "APP001", path := ["x", "y", "z"] }) })

/-- Addresses with a floor under that rule. -/
def placed : History :=
  ((start true).next (.registerRule (.text "placing") (.factory (.custom placing)))).next
    (.registerRecord (.ofDescription
      { cls := addressClass
        fields := [{ name := "floor", fieldType := .plain "int" false, rules := some "placing()" }] }))

/-- A path can have more names than there are records: with a check that gives a path of its
    own, and in a failure of a validator that is compiled from text. -/
theorem not_all_paths_bounded :
    (¬ ∀ history : History, ∀ validator ∈ history.engine.records, ∀ value failure,
      (validator.run value).verdict = .ok (some failure) →
        failure.path.length ≤ history.engine.records.length) ∧
    ¬ ∀ (history : History) text type name validator value failure,
      history.engine.compile text type name = .ok validator →
        (validator.run value).verdict = .ok (some failure) →
          failure.path.length ≤ history.engine.records.length := by
  constructor
  · intro bounded
    have told : (placed.engine.record? addressClass).map (fun validator =>
        (validator.run (.record addressClass [("floor", .integer 1)])).verdict) =
        some (.ok (some { cause := .stated "misplaced" "APP001", fieldName := "floor"
                          path := ["floor", "x", "y", "z"] })) := by
      decide +kernel
    obtain ⟨validator, found, failed⟩ := Option.map_eq_some_iff.mp told
    have few := bounded placed validator (List.mem_of_find?_eq_some found) _ _ failed
    have one : placed.engine.records.length = 1 := by decide +kernel
    rw [one] at few
    exact absurd few (by decide)
  · intro bounded
    have told : (residents.engine.compile "strct()" (.record personClass) "tenant").toOption.map
        (fun validator => (validator.run (.record personClass (livingOn 0))).verdict) =
        some (.ok (some { cause := .below 0 1, fieldName := "tenant"
                          path := ["tenant", "home", "floor"] })) := by
      decide +kernel
    obtain ⟨validator, built, failed⟩ := exists_of_toOption_map told
    have few := bounded residents _ _ _ validator _ _ built failed
    have two : residents.engine.records.length = 2 := by decide +kernel
    rw [two] at few
    exact absurd few (by decide)

end History

end FieldRules
