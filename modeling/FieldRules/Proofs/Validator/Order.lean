/-
  FieldRules/Proofs/Validator/Order.lean
  ======================================
  **Outcomes in order: the first one that is no pass decides.**

  The rules of a field are gone through in order, and so are the fields of a
  record, as long as the value passes.  Both are `Outcome.inOrder`, so what
  short-circuiting means is settled here once: all pass (`inOrder_passes_iff`),
  or there is a first item that does not, and nothing behind it counts
  (`exists_first_of_not_passes`, `inOrder_of_first`).
-/
import FieldRules.Rule.Factory
import Mathlib.Data.List.Forall2

namespace FieldRules

namespace Outcome

def Passes (outcome : Outcome) : Prop := outcome.verdict = .ok none

theorem passes_passed : passed.Passes := rfl

theorem not_passes_failed (cause : FailureCause) : ¬ (failed cause).Passes := by
  intro passes
  cases passes

/-! ### One outcome after another -/

theorem andThen_of_passes {first : Outcome} (passes : first.Passes) (second : Unit → Outcome) :
    first.andThen second =
      { calls := first.calls ++ (second ()).calls, verdict := (second ()).verdict } := by
  obtain ⟨calls, verdict⟩ := first
  cases passes
  rfl

theorem andThen_of_not_passes {first : Outcome} (stops : ¬ first.Passes)
    (second : Unit → Outcome) : first.andThen second = first := by
  obtain ⟨calls, verdict⟩ := first
  unfold andThen
  split
  · exact absurd ‹_› stops
  · rfl

theorem passed_andThen (second : Unit → Outcome) : passed.andThen second = second () := by
  rw [andThen_of_passes passes_passed]
  rfl

theorem andThen_passed (first : Outcome) : (first.andThen fun _ => passed) = first := by
  by_cases passes : first.Passes
  · rw [andThen_of_passes passes]
    obtain ⟨calls, verdict⟩ := first
    cases passes
    simp [passed]
  · exact andThen_of_not_passes passes _

theorem andThen_passes_iff {first : Outcome} {second : Unit → Outcome} :
    (first.andThen second).Passes ↔ first.Passes ∧ (second ()).Passes := by
  by_cases passes : first.Passes
  · rw [andThen_of_passes passes]
    exact ⟨fun rest => ⟨passes, rest⟩, fun both => both.2⟩
  · rw [andThen_of_not_passes passes]
    exact ⟨fun also => absurd also passes, fun both => both.1⟩

theorem andThen_assoc (first : Outcome) (second third : Unit → Outcome) :
    (first.andThen second).andThen third =
      first.andThen fun _ => (second ()).andThen third := by
  by_cases passes : first.Passes
  · by_cases more : (second ()).Passes
    · have both : (first.andThen second).Passes := andThen_passes_iff.mpr ⟨passes, more⟩
      rw [andThen_of_passes both, andThen_of_passes passes, andThen_of_passes passes,
        andThen_of_passes more, List.append_assoc]
    · have stops : ¬ (first.andThen second).Passes := fun both =>
        more (andThen_passes_iff.mp both).2
      rw [andThen_of_not_passes stops, andThen_of_passes passes, andThen_of_passes passes,
        andThen_of_not_passes more]
  · rw [andThen_of_not_passes passes, andThen_of_not_passes passes, andThen_of_not_passes passes]

theorem inField_passes_iff {outcome : Outcome} {name : String} :
    (outcome.inField name).Passes ↔ outcome.Passes := by
  obtain ⟨calls, verdict⟩ := outcome
  unfold Passes inField
  rcases verdict with fault | _ | failure
  · simp [Except.map]
  · simp [Except.map]
  · simp [Except.map]

theorem inField_andThen (first : Outcome) (second : Unit → Outcome) (name : String) :
    (first.andThen second).inField name =
      (first.inField name).andThen fun _ => (second ()).inField name := by
  by_cases passes : first.Passes
  · have passesInField : (first.inField name).Passes := inField_passes_iff.mpr passes
    rw [andThen_of_passes passes, andThen_of_passes passesInField]
    rfl
  · have stopsInField : ¬ (first.inField name).Passes := fun also =>
      passes (inField_passes_iff.mp also)
    rw [andThen_of_not_passes passes, andThen_of_not_passes stopsInField]

/-- What fails in a field failed inside, and has got the name of the field. -/
theorem inField_verdict_eq_failure_iff {outcome : Outcome} {name : String} {failure : Failure} :
    (outcome.inField name).verdict = .ok (some failure) ↔
      ∃ inner, outcome.verdict = .ok (some inner) ∧ inner.inField name = failure := by
  obtain ⟨calls, verdict⟩ := outcome
  unfold inField
  rcases verdict with fault | _ | inner
  · simp [Except.map]
  · simp [Except.map]
  · simp [Except.map]

/-- A field breaks a run off where what is inside does. -/
theorem inField_verdict_eq_error_iff {outcome : Outcome} {name : String} {fault : RunFault} :
    (outcome.inField name).verdict = .error fault ↔ outcome.verdict = .error fault := by
  obtain ⟨calls, verdict⟩ := outcome
  unfold inField
  cases verdict <;> simp [Except.map]

/-! ### Many outcomes in order -/

variable {α : Type}

/-- Goes through items in order, up to the first that shows no pass. -/
def inOrder (shown : α → Outcome) : List α → Outcome
  | [] => passed
  | item :: rest => (shown item).andThen fun _ => inOrder shown rest

variable {shown : α → Outcome}

theorem inOrder_passes_iff {items : List α} :
    (inOrder shown items).Passes ↔ ∀ item ∈ items, (shown item).Passes := by
  induction items with
  | nil => simp [inOrder, passes_passed]
  | cons item rest ih => rw [inOrder, andThen_passes_iff, ih, List.forall_mem_cons]

theorem inOrder_append (items more : List α) :
    inOrder shown (items ++ more) = (inOrder shown items).andThen fun _ => inOrder shown more := by
  induction items with
  | nil => rw [List.nil_append, inOrder, passed_andThen]
  | cons item rest ih => rw [List.cons_append, inOrder, ih, inOrder, andThen_assoc]

/-- **The first item that shows no pass decides**, and only the checks up to it
    have run. -/
theorem inOrder_of_first {before after : List α} {first : α}
    (passed : ∀ item ∈ before, (shown item).Passes) (stops : ¬ (shown first).Passes) :
    inOrder shown (before ++ first :: after) =
      { calls := before.flatMap (fun item => (shown item).calls) ++ (shown first).calls
        verdict := (shown first).verdict } := by
  induction before with
  | nil => rw [List.nil_append, inOrder, andThen_of_not_passes stops]; rfl
  | cons item before ih =>
    rw [List.forall_mem_cons] at passed
    rw [List.cons_append, inOrder, andThen_of_passes passed.1, ih passed.2, List.flatMap_cons,
      List.append_assoc]

theorem exists_first_of_not_passes {items : List α} (stops : ¬ (inOrder shown items).Passes) :
    ∃ before first after, items = before ++ first :: after ∧
      (∀ item ∈ before, (shown item).Passes) ∧ ¬ (shown first).Passes := by
  induction items with
  | nil => exact absurd passes_passed stops
  | cons item rest ih =>
    by_cases passes : (shown item).Passes
    · have stopsLater : ¬ (inOrder shown rest).Passes := by
        intro restPasses
        rw [inOrder, andThen_passes_iff] at stops
        exact stops ⟨passes, restPasses⟩
      obtain ⟨before, first, after, rfl, passed, stopsThere⟩ := ih stopsLater
      exact ⟨item :: before, first, after, rfl, List.forall_mem_cons.mpr ⟨passes, passed⟩,
        stopsThere⟩
    · exact ⟨[], item, rest, rfl, List.forall_mem_nil _, passes⟩

/-- A run over items breaks off where the first one does that shows no pass. -/
theorem inOrder_verdict_eq_error_iff {items : List α} {fault : RunFault} :
    (inOrder shown items).verdict = .error fault ↔
      ∃ before first after, items = before ++ first :: after ∧
        (∀ item ∈ before, (shown item).Passes) ∧ (shown first).verdict = .error fault := by
  constructor
  · intro broken
    have stops : ¬ (inOrder shown items).Passes := by
      intro passes
      cases passes.symm.trans broken
    obtain ⟨before, first, after, rfl, passed, stopsThere⟩ := exists_first_of_not_passes stops
    rw [inOrder_of_first passed stopsThere] at broken
    exact ⟨before, first, after, rfl, passed, broken⟩
  · rintro ⟨before, first, after, rfl, passed, broken⟩
    have stops : ¬ (shown first).Passes := by
      intro passes
      cases passes.symm.trans broken
    rw [inOrder_of_first passed stops]
    exact broken

theorem inOrder_eq_of_forall₂ {β : Type} {shown' : β → Outcome} {items : List α} {others : List β}
    (same : List.Forall₂ (fun item other => shown item = shown' other) items others) :
    inOrder shown items = inOrder shown' others := by
  induction same with
  | nil => rfl
  | cons head _ ih => rw [inOrder, inOrder, head, ih]

end Outcome

/-! ### Validators in order -/

namespace Validator

open Outcome (inOrder)

/-- What a validator that may be missing shows: a missing one passes every value. -/
def shownBy (value : Value) : Option Validator → Outcome
  | none => .passed
  | some validator => validator.run value

theorem run_andThen (first second : Option Validator) (value : Value) :
    (andThen first second).run value =
      (shownBy value first).andThen fun _ => shownBy value second := by
  cases first with
  | none =>
    rw [shownBy, Outcome.passed_andThen]
    cases second <;> rfl
  | some validator =>
    cases second with
    | none => exact (Outcome.andThen_passed _).symm
    | some other => rfl

/-- **A chain shows what its validators show in order.** -/
theorem run_chain (validators : List (Option Validator)) (value : Value) :
    (chain validators).run value = inOrder (shownBy value) validators := by
  have folded (sofar : Option Validator) :
      shownBy value
          (validators.foldl (fun combined next => some (andThen combined next)) sofar) =
        (shownBy value sofar).andThen fun _ => inOrder (shownBy value) validators := by
    induction validators generalizing sofar with
    | nil => exact (Outcome.andThen_passed _).symm
    | cons validator rest ih =>
      have step : shownBy value (some (andThen sofar validator)) =
          (shownBy value sofar).andThen fun _ => shownBy value validator :=
        run_andThen sofar validator value
      rw [List.foldl_cons, ih, step, Outcome.andThen_assoc, inOrder]
  have whole := folded none
  rw [shownBy, Outcome.passed_andThen] at whole
  rw [← whole, chain]
  cases validators.foldl (fun combined next => some (andThen combined next)) none <;> rfl

def shownByField (value : Value) (field : String × Validator) : Outcome :=
  match readAttribute value field.1 with
  | .error fault => { verdict := .error fault }
  | .ok present => field.2.run present

theorem runFields_eq_inOrder (fields : List (String × Validator)) (value : Value) :
    runFields fields value = inOrder (shownByField value) fields := by
  induction fields with
  | nil => rfl
  | cons field rest ih =>
    obtain ⟨name, validator⟩ := field
    rw [runFields, inOrder, shownByField, ih]
    cases readAttribute value name with
    | error fault => rfl
    | ok present => rfl

end Validator

/-- **A record validator refuses values of other classes, and otherwise shows
    what its fields show in order.** -/
theorem RecordValidator.run_eq (validator : RecordValidator) (value : Value) :
    validator.run value =
      if value.isInstanceOf validator.cls then
        Outcome.inOrder (Validator.shownByField value) validator.fields
      else .failed (.wrongKind ("a " ++ validator.cls.qualifiedName) value.className) := by
  rw [run, toValidator, Validator.run, Validator.runFields_eq_inOrder]

end FieldRules
