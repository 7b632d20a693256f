/-
  FieldRules/Proofs/Validator/Nesting.lean
  ========================================
  **The records that a validator looks into, and how deep it goes.**

  A validator refers to record validators (`nested`), which refer to others in
  turn.  `runWithin` runs a validator on the objects of a graph, where an object
  may lead back to itself, with a limit on how many record validators may be at
  work inside of one another; beyond the limit there is no outcome.  How far a
  limit has to go depends on the validator alone and not on the objects, and it
  can be told level by level: if the record validators that a validator refers to
  keep a limit, so does the validator (`isSome_runWithin`), and the names that its
  failures carry are one level's names more (`namesAtMost_runWithin`).
-/
import FieldRules.Proofs.Validator.Order

namespace FieldRules

namespace Validator

/-- The record validators that a validator refers to directly. -/
def nested : Validator → List RecordValidator
  | always | test _ | custom _ => []
  | both first second => first.nested ++ second.nested
  | inField _ inner | optional inner => inner.nested
  | record cls fields => [⟨cls, fields⟩]

/-- The checks of an application that a validator makes, those of nested records apart. -/
def checks : Validator → List (Value → Outcome)
  | always | test _ | record _ _ => []
  | custom judge => [judge]
  | both first second => first.checks ++ second.checks
  | inField _ inner | optional inner => inner.checks

/-- How many names a validator puts in front of a path, those of nested records apart. -/
def labels : Validator → Nat
  | always | test _ | custom _ | record _ _ => 0
  | both first second => max first.labels second.labels
  | inField _ inner => inner.labels + 1
  | optional inner => inner.labels

/-- Induction on a validator down to the record validators that it refers to. -/
@[elab_as_elim]
theorem shallowInduction {motive : Validator → Prop} (always : motive .always)
    (test : ∀ what, motive (.test what)) (custom : ∀ judge, motive (.custom judge))
    (both : ∀ first second, motive first → motive second → motive (.both first second))
    (inField : ∀ name inner, motive inner → motive (.inField name inner))
    (optional : ∀ inner, motive inner → motive (.optional inner))
    (record : ∀ cls fields, motive (.record cls fields)) (validator : Validator) :
    motive validator :=
  @Validator.rec motive (fun _ => True) (fun _ => True) always test custom both inField optional
    (fun cls fields _ => record cls fields) trivial (fun _ _ _ _ => trivial)
    (fun _ _ _ => trivial) validator

/-! ### Chains -/

theorem andThen_induction {motive : Validator → Prop} (always : motive .always)
    (both : ∀ first second, motive first → motive second → motive (.both first second))
    {first second : Option Validator} (inFirst : ∀ validator ∈ first, motive validator)
    (inSecond : ∀ validator ∈ second, motive validator) : motive (andThen first second) := by
  cases first with
  | none =>
    cases second with
    | none => exact always
    | some after => exact inSecond after rfl
  | some before =>
    cases second with
    | none => exact inFirst before rfl
    | some after => exact both before after (inFirst before rfl) (inSecond after rfl)

theorem chain_induction {motive : Validator → Prop} (always : motive .always)
    (both : ∀ first second, motive first → motive second → motive (.both first second))
    {validators : List (Option Validator)}
    (each : ∀ next ∈ validators, ∀ validator ∈ next, motive validator) :
    motive (chain validators) := by
  have folded (sofar : Option Validator) (told : ∀ validator ∈ sofar, motive validator) :
      ∀ validator ∈ validators.foldl (fun combined next => some (andThen combined next)) sofar,
        motive validator := by
    induction validators generalizing sofar with
    | nil => exact told
    | cons next rest ih =>
      rw [List.forall_mem_cons] at each
      apply ih each.2
      rintro validator ⟨⟩
      exact andThen_induction always both told each.1
  have whole := folded none (fun _ absent => nomatch absent)
  unfold chain
  cases combined : validators.foldl (fun combined next => some (andThen combined next)) none with
  | none => exact always
  | some validator => exact whole validator combined

theorem checks_andThen (first second : Option Validator) :
    (andThen first second).checks = first.elim [] checks ++ second.elim [] checks := by
  cases first <;> cases second <;> simp [andThen, checks]

theorem checks_chain (validators : List (Option Validator)) :
    (chain validators).checks = validators.flatMap fun validator => validator.elim [] checks := by
  have folded (sofar : Option Validator) :
      (validators.foldl (fun combined next => some (andThen combined next)) sofar).elim [] checks =
        sofar.elim [] checks ++ validators.flatMap fun validator => validator.elim [] checks := by
    induction validators generalizing sofar with
    | nil => exact (List.append_nil _).symm
    | cons next rest ih =>
      rw [List.foldl_cons, ih, Option.elim_some, checks_andThen, List.append_assoc,
        List.flatMap_cons]
  have whole := folded none
  rw [Option.elim_none, List.nil_append] at whole
  rw [← whole, chain]
  cases validators.foldl (fun combined next => some (andThen combined next)) none <;> rfl

end Validator

def RecordValidator.nested (validator : RecordValidator) : List RecordValidator :=
  validator.fields.flatMap fun field => field.2.nested

def RecordValidator.checks (validator : RecordValidator) : List (Value → Outcome) :=
  validator.fields.flatMap fun field => field.2.checks

/-! ### Failures of tests -/

/-- The built-in tests attribute their failures to no field. -/
theorem Test.bare_of_run {what : Test} {value : Value} {failure : Failure}
    (failed : (what.run value).verdict = .ok (some failure)) :
    failure.fieldName = "" ∧ failure.path = [] := by
  have numbers (judge : Nat → Option FailureCause)
      (failed : (judgeNumber value judge).verdict = .ok (some failure)) :
      failure.fieldName = "" ∧ failure.path = [] := by
    unfold judgeNumber at failed
    split at failed
    · cases failed
    · cases failed
      exact ⟨rfl, rfl⟩
    · split at failed
      · cases failed
      · cases failed
        exact ⟨rfl, rfl⟩
  have texts (judge : String → Option FailureCause)
      (failed : (judgeText value judge).verdict = .ok (some failure)) :
      failure.fieldName = "" ∧ failure.path = [] := by
    unfold judgeText at failed
    split at failed
    · cases failed
      exact ⟨rfl, rfl⟩
    · split at failed
      · cases failed
      · cases failed
        exact ⟨rfl, rfl⟩
  unfold run at failed
  cases what with
  | atMost bound => exact numbers _ failed
  | atLeast bound => exact numbers _ failed
  | oneOfNumbers allowed => exact numbers _ failed
  | oneOfTexts allowed => exact texts _ failed
  | notBlank => exact texts _ failed
  | hasLength length => exact texts _ failed
  | contains source pattern => exact texts _ failed

/-! ### Running with a limit -/

/-- Objects as validators meet them.  An attribute of an object is an object again,
    and following attributes may lead back to where one came from. -/
structure ObjectGraph where
  Object : Type
  /-- What can be seen of an object without following an attribute. -/
  view : Object → Value
  attribute? : Object → String → Option Object
  /-- What a check of an application shows on an object. -/
  consult : (Value → Outcome) → Object → Outcome

abbrev ObjectGraph.values : ObjectGraph where
  Object := Value
  view := id
  attribute? value name := value.attribute? name
  consult judge value := judge value

/-- Goes on after an outcome, if the value passed so far and there is an outcome to
    go on with. -/
def Outcome.andThen? (first : Outcome) (second : Unit → Option Outcome) : Option Outcome :=
  match first.verdict with
  | .ok none => (second ()).map fun rest => first.andThen fun _ => rest
  | _ => some first

namespace Validator

variable {graph : ObjectGraph}

mutual

/-- Runs a validator with at most so many record validators at work inside of one
    another. -/
def runWithin (graph : ObjectGraph) : Validator → Nat → graph.Object → Option Outcome
  | always, _, _ => some .passed
  | test what, _, object => some (what.run (graph.view object))
  | custom judge, _, object => some (graph.consult judge object)
  | both first second, depth, object =>
    (runWithin graph first depth object).bind
      (·.andThen? fun _ => runWithin graph second depth object)
  | inField name inner, depth, object => (runWithin graph inner depth object).map (·.inField name)
  | optional inner, depth, object =>
    match graph.view object with
    | .none => some .passed
    | _ => runWithin graph inner depth object
  | record _ _, 0, _ => none
  | record cls fields, depth + 1, object =>
    if (graph.view object).isInstanceOf cls then fieldsWithin graph fields depth object
    else some (.failed (.wrongKind ("a " ++ cls.qualifiedName) (graph.view object).className))

def fieldsWithin (graph : ObjectGraph) :
    List (String × Validator) → Nat → graph.Object → Option Outcome
  | [], _, _ => some .passed
  | (name, validator) :: rest, depth, object =>
    match graph.attribute? object name with
    | none => some { verdict := .error (.missingAttribute (graph.view object).className name) }
    | some present =>
      (runWithin graph validator depth present).bind
        (·.andThen? fun _ => fieldsWithin graph rest depth object)

end

/-! ### How deep a validator goes -/

theorem andThen_eq_of_andThen? {first rest outcome : Outcome} {second : Unit → Option Outcome}
    (later : ∀ shown, second () = some shown → rest = shown)
    (shown : first.andThen? second = some outcome) : (first.andThen fun _ => rest) = outcome := by
  unfold Outcome.andThen? at shown
  split at shown
  · obtain ⟨other, isOther, rfl⟩ := Option.map_eq_some_iff.mp shown
    rw [later other isOther]
  · rename_i stops
    cases shown
    exact Outcome.andThen_of_not_passes stops _

theorem isSome_andThen? {first : Outcome} {second : Unit → Option Outcome}
    (there : ∀ asked, (second asked).isSome) : (first.andThen? second).isSome := by
  unfold Outcome.andThen?
  split
  · rw [Option.isSome_map]
    exact there ()
  · rfl

/-- **A validator keeps the limit that the records keep to which it refers.** -/
theorem isSome_runWithin {depth : Nat} (validator : Validator)
    (inner : ∀ target ∈ validator.nested, ∀ object,
      (runWithin graph target.toValidator depth object).isSome) (object : graph.Object) :
    (runWithin graph validator depth object).isSome := by
  induction validator using shallowInduction with
  | always => rfl
  | test what => rfl
  | custom judge => rfl
  | both first second firstKeeps secondKeeps =>
    have first := firstKeeps fun target member => inner target (List.mem_append_left _ member)
    have second := secondKeeps fun target member => inner target (List.mem_append_right _ member)
    obtain ⟨shown, shows⟩ := Option.isSome_iff_exists.mp first
    rw [runWithin, shows]
    exact isSome_andThen? fun _ => second
  | inField name validator keeps =>
    rw [runWithin, Option.isSome_map]
    exact keeps inner
  | optional validator keeps =>
    rw [runWithin]
    split
    · rfl
    · exact keeps inner
  | record cls fields => exact inner ⟨cls, fields⟩ List.mem_cons_self object

theorem isSome_fieldsWithin {depth : Nat} {fields : List (String × Validator)}
    (inner : ∀ field ∈ fields, ∀ object, (runWithin graph field.2 depth object).isSome)
    (object : graph.Object) : (fieldsWithin graph fields depth object).isSome := by
  induction fields with
  | nil => rfl
  | cons field rest ih =>
    obtain ⟨name, validator⟩ := field
    rw [List.forall_mem_cons] at inner
    rw [fieldsWithin]
    split
    · rfl
    · rename_i present _
      obtain ⟨shown, shows⟩ := Option.isSome_iff_exists.mp (inner.1 present)
      rw [shows]
      exact isSome_andThen? fun _ => ih inner.2

/-- A record validator needs one level more than the records to which it refers. -/
theorem isSome_runWithin_succ {depth : Nat} {validator : RecordValidator}
    (inner : ∀ target ∈ validator.nested, ∀ object,
      (runWithin graph target.toValidator depth object).isSome) (object : graph.Object) :
    (runWithin graph validator.toValidator (depth + 1) object).isSome := by
  rw [RecordValidator.toValidator, runWithin]
  split
  · refine isSome_fieldsWithin (fun field member => ?_) object
    refine isSome_runWithin field.2 fun target isTarget => inner target ?_
    exact List.mem_flatMap.mpr ⟨field, member, isTarget⟩
  · rfl

end Validator

/-! ### How many names a failure carries -/

/-- A failure carries at most so many names in front of the path it came with, which
    is empty or among those that are given. -/
def Outcome.NamesAtMost (outcome : Outcome) (given : List String → Prop) (count : Nat) : Prop :=
  ∀ failure, outcome.verdict = .ok (some failure) →
    ∃ names own, failure.path = names ++ own ∧ names.length ≤ count ∧ (own = [] ∨ given own)

namespace Outcome

variable {first outcome : Outcome} {given : List String → Prop} {count : Nat}

theorem NamesAtMost.mono {more : Nat} (carried : outcome.NamesAtMost given count)
    (le : count ≤ more) : outcome.NamesAtMost given more := by
  intro failure failed
  obtain ⟨names, own, path, few, origin⟩ := carried failure failed
  exact ⟨names, own, path, Nat.le_trans few le, origin⟩

theorem namesAtMost_of_path
    (came : ∀ failure, outcome.verdict = .ok (some failure) →
      failure.path = [] ∨ given failure.path) : outcome.NamesAtMost given count := by
  intro failure failed
  exact ⟨[], failure.path, rfl, Nat.zero_le _, came failure failed⟩

theorem namesAtMost_passed : passed.NamesAtMost given count := by
  intro failure failed
  cases failed

theorem namesAtMost_failed (cause : FailureCause) : (failed cause).NamesAtMost given count := by
  refine namesAtMost_of_path ?_
  rintro failure ⟨⟩
  exact .inl rfl

theorem NamesAtMost.inField (carried : outcome.NamesAtMost given count) (name : String) :
    (outcome.inField name).NamesAtMost given (count + 1) := by
  intro failure failed
  obtain ⟨inner, innerFailed, rfl⟩ := inField_verdict_eq_failure_iff.mp failed
  obtain ⟨names, own, path, few, origin⟩ := carried inner innerFailed
  have longer : (inner.inField name).path = (name :: names) ++ own := by
    rw [Failure.inField, path, List.cons_append]
  exact ⟨name :: names, own, longer, Nat.succ_le_succ few, origin⟩

theorem NamesAtMost.andThen? {second : Unit → Option Outcome}
    (carried : first.NamesAtMost given count)
    (later : ∀ rest, second () = some rest → rest.NamesAtMost given count)
    (shown : first.andThen? second = some outcome) : outcome.NamesAtMost given count := by
  unfold Outcome.andThen? at shown
  split at shown
  · rename_i passes
    obtain ⟨rest, isRest, rfl⟩ := Option.map_eq_some_iff.mp shown
    rw [andThen_of_passes passes]
    exact later rest isRest
  · cases shown
    exact carried

end Outcome

namespace Validator

variable {graph : ObjectGraph} {given : List String → Prop} {count : Nat}

/-- What the checks of a validator bring along in their failures is given. -/
def OwnPaths (graph : ObjectGraph) (given : List String → Prop) (checks : List (Value → Outcome)) :
    Prop :=
  ∀ judge ∈ checks, ∀ object failure, (graph.consult judge object).verdict = .ok (some failure) →
    failure.path = [] ∨ given failure.path

/-- A path with which one of some checks gives a failure back. -/
def GivenPath (graph : ObjectGraph) (checks : List (Value → Outcome)) (own : List String) : Prop :=
  ∃ judge ∈ checks, ∃ object given,
    (graph.consult judge object).verdict = .ok (some given) ∧ given.path = own

theorem ownPaths_of_subset {checks more : List (Value → Outcome)} (within : checks ⊆ more) :
    OwnPaths graph (GivenPath graph more) checks := by
  intro judge isCheck object given failed
  exact .inr ⟨judge, within isCheck, object, given, failed, rfl⟩

/-- **Failures carry the names of the records that a validator refers to**, and
    those that the validator puts in front. -/
theorem namesAtMost_runWithin {depth : Nat} (validator : Validator)
    (inner : ∀ target ∈ validator.nested, ∀ object outcome,
      runWithin graph target.toValidator depth object = some outcome →
        outcome.NamesAtMost given count)
    (own : OwnPaths graph given validator.checks) {object : graph.Object} {outcome : Outcome}
    (shown : runWithin graph validator depth object = some outcome) :
    outcome.NamesAtMost given (validator.labels + count) := by
  induction validator using shallowInduction generalizing outcome with
  | always =>
    cases shown
    exact Outcome.namesAtMost_passed
  | test what =>
    cases shown
    refine Outcome.namesAtMost_of_path ?_
    intro failure failed
    exact .inl (Test.bare_of_run failed).2
  | custom judge =>
    cases shown
    exact Outcome.namesAtMost_of_path (own judge List.mem_cons_self object)
  | both first second firstNames secondNames =>
    rw [runWithin] at shown
    obtain ⟨shownFirst, isFirst, goesOn⟩ := Option.bind_eq_some_iff.mp shown
    refine Outcome.NamesAtMost.andThen? ?_ (fun rest isRest => ?_) goesOn
    · refine (firstNames (fun target member => ?_) (fun judge member => ?_) isFirst).mono
        (Nat.add_le_add_right (Nat.le_max_left _ _) _)
      · exact inner target (List.mem_append_left _ member)
      · exact own judge (List.mem_append_left _ member)
    · refine (secondNames (fun target member => ?_) (fun judge member => ?_) isRest).mono
        (Nat.add_le_add_right (Nat.le_max_right _ _) _)
      · exact inner target (List.mem_append_right _ member)
      · exact own judge (List.mem_append_right _ member)
  | inField name validator names =>
    rw [runWithin] at shown
    obtain ⟨shownInner, isInner, rfl⟩ := Option.map_eq_some_iff.mp shown
    have carried := (names inner own isInner).inField name
    rwa [Nat.add_right_comm] at carried
  | optional validator names =>
    rw [runWithin] at shown
    split at shown
    · cases shown
      exact Outcome.namesAtMost_passed
    · exact names inner own shown
  | record cls fields =>
    rw [labels, Nat.zero_add]
    exact inner ⟨cls, fields⟩ List.mem_cons_self object outcome shown

theorem namesAtMost_fieldsWithin {depth : Nat} {fields : List (String × Validator)}
    (inner : ∀ field ∈ fields, ∀ object outcome,
      runWithin graph field.2 depth object = some outcome → outcome.NamesAtMost given count)
    {object : graph.Object} {outcome : Outcome}
    (shown : fieldsWithin graph fields depth object = some outcome) :
    outcome.NamesAtMost given count := by
  induction fields generalizing outcome with
  | nil =>
    cases shown
    exact Outcome.namesAtMost_passed
  | cons field rest ih =>
    obtain ⟨name, validator⟩ := field
    rw [List.forall_mem_cons] at inner
    rw [fieldsWithin] at shown
    split at shown
    · cases shown
      intro failure failed
      cases failed
    · rename_i present _
      obtain ⟨shownFirst, isFirst, goesOn⟩ := Option.bind_eq_some_iff.mp shown
      exact (inner.1 present shownFirst isFirst).andThen? (fun _ isRest => ih inner.2 isRest) goesOn

/-- In a record whose fields put one name each in front, failures carry one name
    more than in the records it refers to. -/
theorem namesAtMost_runWithin_succ {depth : Nat} {validator : RecordValidator}
    (single : ∀ field ∈ validator.fields, field.2.labels ≤ 1)
    (inner : ∀ target ∈ validator.nested, ∀ object outcome,
      runWithin graph target.toValidator depth object = some outcome →
        outcome.NamesAtMost given count)
    (own : OwnPaths graph given validator.checks) {object : graph.Object} {outcome : Outcome}
    (shown : runWithin graph validator.toValidator (depth + 1) object = some outcome) :
    outcome.NamesAtMost given (count + 1) := by
  rw [RecordValidator.toValidator, runWithin] at shown
  split at shown
  · refine namesAtMost_fieldsWithin (fun field member object outcome shown => ?_) shown
    have carried : outcome.NamesAtMost given (field.2.labels + count) := by
      apply namesAtMost_runWithin field.2 _ _ shown
      · intro target isTarget
        exact inner target (List.mem_flatMap.mpr ⟨field, member, isTarget⟩)
      · intro judge isCheck
        exact own judge (List.mem_flatMap.mpr ⟨field, member, isCheck⟩)
    have single := single field member
    exact carried.mono (by omega)
  · cases shown
    exact Outcome.namesAtMost_failed _

/-! ### Values -/

mutual

/-- **On values, a run that keeps the limit is the run.** -/
theorem runWithin_values (validator : Validator) (depth : Nat) (value : Value) (outcome : Outcome)
    (shown : runWithin .values validator depth value = some outcome) :
    validator.run value = outcome := by
  cases validator with
  | always =>
    cases shown
    rfl
  | test what =>
    cases shown
    rfl
  | custom judge =>
    cases shown
    rfl
  | both first second =>
    rw [runWithin] at shown
    obtain ⟨shownFirst, isFirst, goesOn⟩ := Option.bind_eq_some_iff.mp shown
    rw [run, runWithin_values first depth value shownFirst isFirst]
    exact andThen_eq_of_andThen? (runWithin_values second depth value) goesOn
  | inField name inner =>
    rw [runWithin] at shown
    obtain ⟨shownInner, isInner, rfl⟩ := Option.map_eq_some_iff.mp shown
    rw [run, runWithin_values inner depth value shownInner isInner]
  | optional inner =>
    cases value with
    | none =>
      cases shown
      rfl
    | _ => exact runWithin_values inner depth _ outcome shown
  | record cls fields =>
    cases depth with
    | zero => cases shown
    | succ depth =>
      rw [run]
      rw [runWithin] at shown
      split at shown
      · rename_i isInstance
        have isInstance : value.isInstanceOf cls = true := isInstance
        rw [if_pos isInstance]
        exact fieldsWithin_values fields depth value outcome shown
      · rename_i isOther
        have isOther : ¬ value.isInstanceOf cls = true := isOther
        cases shown
        rw [if_neg isOther]
        rfl

theorem fieldsWithin_values (fields : List (String × Validator)) (depth : Nat) (value : Value)
    (outcome : Outcome) (shown : fieldsWithin .values fields depth value = some outcome) :
    runFields fields value = outcome := by
  cases fields with
  | nil =>
    cases shown
    rfl
  | cons field rest =>
    obtain ⟨name, validator⟩ := field
    rw [runFields, readAttribute]
    rw [fieldsWithin] at shown
    split at shown
    · rename_i absent
      have absent : value.attribute? name = none := absent
      cases shown
      rw [absent]
      rfl
    · rename_i present there
      have there : value.attribute? name = some present := there
      obtain ⟨shownFirst, isFirst, goesOn⟩ := Option.bind_eq_some_iff.mp shown
      rw [there]
      simp only
      rw [runWithin_values validator depth present shownFirst isFirst]
      exact andThen_eq_of_andThen? (fieldsWithin_values rest depth value) goesOn

end

end Validator

end FieldRules
