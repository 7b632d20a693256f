/-
  FieldRules/Proofs/Validator/Combinators.lean
  ============================================
  **The laws of combining validators.**

  Combined validators are compared by all that they show: the verdict, and the
  checks that ran before it, in order.  Two that show the same of every value
  are alike, and the laws say which combinations are (`combinator_laws`).

  A chain is a run over its members in order (`run_chain`), so its laws are
  those of such runs: a run over a list and another behind it is the one run and
  then the other, and attributing a whole run to a field is attributing each of
  its steps.  A run ends with the first step that is no pass
  (`stopsAtFirst_inOrder`).  To see of any validator whether it runs, it is put
  under observation (`watched`).
-/
import FieldRules.Proofs.Validator.Order
import Mathlib.Data.List.ReduceOption

namespace FieldRules

namespace Outcome

variable {α β : Type} {shown : α → Outcome}

/-! ### Runs over items -/

theorem inOrder_map (shown : β → Outcome) (f : α → β) (items : List α) :
    inOrder shown (items.map f) = inOrder (fun item => shown (f item)) items := by
  induction items with
  | nil => rfl
  | cons item rest ih => rw [List.map_cons, inOrder, inOrder, ih]

/-- **Attributing a run to a field is attributing each of its steps.** -/
theorem inField_inOrder (shown : α → Outcome) (items : List α) (name : String) :
    (inOrder shown items).inField name =
      inOrder (fun item => (shown item).inField name) items := by
  induction items with
  | nil => rfl
  | cons item rest ih => rw [inOrder, inOrder, inField_andThen, ih]

theorem inOrder_eq_passed {items : List α} (passed : ∀ item ∈ items, shown item = passed) :
    inOrder shown items = .passed := by
  induction items with
  | nil => rfl
  | cons item rest ih =>
    rw [List.forall_mem_cons] at passed
    rw [inOrder, passed.1, passed_andThen, ih passed.2]

/-- **What goes through items up to the first that shows no pass.**  Either the items
    all pass; then all their checks ran, item by item.  Or there is a first item that
    does not pass: then the checks of the items in front of it ran and its own, in this
    order and no others, and its verdict is that of the whole. -/
def StopsAtFirst (shown : α → Outcome) (items : List α) (outcome : Outcome) : Prop :=
  ((∀ item ∈ items, (shown item).Passes) ∧
      outcome = { calls := items.flatMap fun item => (shown item).calls, verdict := .ok none }) ∨
    ∃ before first after, items = before ++ first :: after ∧
      (∀ item ∈ before, (shown item).Passes) ∧ ¬ (shown first).Passes ∧
      outcome = { calls := (before ++ [first]).flatMap fun item => (shown item).calls
                  verdict := (shown first).verdict }

theorem inOrder_of_passes {items : List α} (passed : ∀ item ∈ items, (shown item).Passes) :
    inOrder shown items =
      { calls := items.flatMap fun item => (shown item).calls, verdict := .ok none } := by
  induction items with
  | nil => rfl
  | cons item rest ih =>
    rw [List.forall_mem_cons] at passed
    rw [inOrder, andThen_of_passes passed.1, ih passed.2, List.flatMap_cons]

theorem stopsAtFirst_inOrder (shown : α → Outcome) (items : List α) :
    StopsAtFirst shown items (inOrder shown items) := by
  by_cases passes : (inOrder shown items).Passes
  · have all := inOrder_passes_iff.mp passes
    exact .inl ⟨all, inOrder_of_passes all⟩
  · obtain ⟨before, first, after, rfl, passed, stops⟩ := exists_first_of_not_passes passes
    refine .inr ⟨before, first, after, rfl, passed, stops, ?_⟩
    rw [inOrder_of_first passed stops, List.flatMap_append, List.flatMap_singleton]

end Outcome

namespace Validator

open Outcome (inOrder inOrder_map inOrder_append StopsAtFirst)

/-! ### Validators that show the same -/

/-- Two validators show the same of every value: the same checks run, in the same order,
    and the verdict is the same. -/
def Alike (first second : Validator) : Prop :=
  ∀ value, first.run value = second.run value

/-- The validator under observation: a check that tells its label whenever it runs, and
    judges as the validator does. -/
def watched (label : String) (inner : Validator) : Validator :=
  .custom fun value => { calls := [label], verdict := (inner.run value).verdict }

variable {member : Option Validator} {members : List (Option Validator)} {name : String}
  {value : Value}

theorem run_always (value : Value) : always.run value = .passed := by
  rw [run]

theorem run_inField (inner : Validator) : (inField name inner).run value =
    (inner.run value).inField name := by
  rw [run]

theorem run_withField (member : Option Validator) : (withField member name).run value =
    (shownBy value member).inField name := by
  cases member with
  | none => rfl
  | some inner => exact run_inField inner

theorem run_optional_none (inner : Validator) : (optional inner).run .none = .passed := by
  rw [run]

theorem run_optional_of_ne (inner : Validator) (present : value ≠ .none) :
    (optional inner).run value = inner.run value := by
  rw [run]
  exact present

theorem shownBy_map_optional_none (member : Option Validator) :
    shownBy .none (member.map optional) = .passed := by
  cases member with
  | none => rfl
  | some inner => exact run_optional_none inner

theorem shownBy_map_optional_of_ne (member : Option Validator) (present : value ≠ .none) :
    shownBy value (member.map optional) = shownBy value member := by
  cases member with
  | none => rfl
  | some inner => exact run_optional_of_ne inner present

/-- A missing member of a chain changes nothing. -/
theorem inOrder_reduceOption (members : List (Option Validator)) (value : Value) :
    inOrder (shownBy value) members = inOrder (fun member => member.run value)
      members.reduceOption := by
  induction members with
  | nil => rfl
  | cons member rest ih =>
    cases member with
    | none => rw [List.reduceOption_cons_of_none, inOrder, shownBy, Outcome.passed_andThen, ih]
    | some inner => rw [List.reduceOption_cons_of_some, inOrder, inOrder, shownBy, ih]

/-! ### Chains -/

theorem stopsAtFirst_chain (members : List (Option Validator)) (value : Value) :
    StopsAtFirst (fun member : Validator => member.run value) members.reduceOption
      ((chain members).run value) := by
  rw [run_chain, inOrder_reduceOption]
  exact Outcome.stopsAtFirst_inOrder _ _

theorem stopsAtFirst_chain_watched (members : List (Option (String × Validator)))
    (value : Value) :
    StopsAtFirst
      (fun member : String × Validator =>
        { calls := [member.1], verdict := (member.2.run value).verdict })
      members.reduceOption
      ((chain (members.map (Option.map fun member => watched member.1 member.2))).run value) := by
  rw [run_chain, inOrder_reduceOption, List.reduceOption_map, inOrder_map]
  exact Outcome.stopsAtFirst_inOrder _ _

theorem alike_chain_append (members more : List (Option Validator)) :
    Alike (chain (members ++ more)) (andThen (some (chain members)) (some (chain more))) := by
  intro value
  rw [run_chain, inOrder_append, run_andThen, shownBy, shownBy, run_chain, run_chain]

/-! ### One after the other -/

theorem alike_andThen_assoc (first second third : Option Validator) :
    Alike (andThen (some (andThen first second)) third)
      (andThen first (some (andThen second third))) := by
  intro value
  rw [run_andThen, run_andThen, shownBy, run_andThen, shownBy, run_andThen,
    Outcome.andThen_assoc]

/-- A validator that shows a pass and no check is neutral, on either side. -/
theorem run_andThen_of_passed {neutral : Option Validator}
    (passes : shownBy value neutral = .passed) (other : Option Validator) :
    (andThen neutral other).run value = shownBy value other ∧
      (andThen other neutral).run value = shownBy value other := by
  constructor
  · rw [run_andThen, passes, Outcome.passed_andThen]
  · rw [run_andThen, passes, Outcome.andThen_passed]

/-! ### Fields and options -/

theorem alike_withField_andThen (first second : Option Validator) (name : String) :
    Alike (withField (some (andThen first second)) name)
      (andThen (some (withField first name)) (some (withField second name))) := by
  intro value
  rw [run_withField, shownBy, run_andThen, Outcome.inField_andThen, run_andThen, shownBy,
    shownBy, run_withField, run_withField]

theorem alike_withField_chain (members : List (Option Validator)) (name : String) :
    Alike (withField (some (chain members)) name)
      (chain (members.map fun member => some (withField member name))) := by
  intro value
  have each (member : Option Validator) :
      shownBy value (some (withField member name)) = (shownBy value member).inField name :=
    run_withField member
  rw [run_withField, shownBy, run_chain, run_chain, inOrder_map, Outcome.inField_inOrder]
  simp only [each]

theorem alike_optional_andThen (first second : Option Validator) :
    Alike (optional (andThen first second))
      (andThen (first.map optional) (second.map optional)) := by
  intro value
  by_cases absent : value = .none
  · subst absent
    rw [run_optional_none, run_andThen, shownBy_map_optional_none, shownBy_map_optional_none,
      Outcome.passed_andThen]
  · rw [run_optional_of_ne _ absent, run_andThen, run_andThen,
      shownBy_map_optional_of_ne _ absent, shownBy_map_optional_of_ne _ absent]

theorem alike_optional_chain (members : List (Option Validator)) :
    Alike (optional (chain members)) (chain (members.map (Option.map optional))) := by
  intro value
  rw [run_chain, inOrder_map]
  by_cases absent : value = .none
  · subst absent
    rw [run_optional_none, Outcome.inOrder_eq_passed fun member _ =>
      shownBy_map_optional_none member]
  · rw [run_optional_of_ne _ absent, run_chain]
    simp only [shownBy_map_optional_of_ne _ absent]

/-- What is attributed to a field inside of another is attributed to the outer one, and
    both names lead to it; its cause is left as it is. -/
theorem run_withField_withField (member : Option Validator) (inner outer : String)
    (value : Value) :
    (withField (some (withField member inner)) outer).run value =
      { calls := (shownBy value member).calls
        verdict := (shownBy value member).verdict.map (Option.map fun failure =>
          { cause := failure.cause, fieldName := outer
            path := outer :: inner :: failure.path }) } := by
  rw [run_withField, shownBy, run_withField]
  obtain ⟨calls, fault | _ | failure⟩ := shownBy value member
  · rfl
  · rfl
  · rfl

/-- **The laws of combining validators**, by what is shown and which validators run.

    A chain goes through those of its members that are there, up to the first that the
    value does not pass: each of these runs once, in order, and none behind it; and it
    shows what they show.  Combining two is associative, and a missing validator and the
    one that every value passes are neutral on either side.  A chain of two lists is the
    chain of the first and then that of the second.  Attributing to a field, and admitting
    the absent value, can be done to a whole or to each of its parts.  What is attributed
    twice has the name of the outer field and a path through both, and keeps its cause,
    from which the reason and the code follow. -/
theorem combinator_laws :
    (∀ (members : List (Option Validator)) (value : Value),
      StopsAtFirst (fun member : Validator => member.run value) members.reduceOption
        ((chain members).run value)) ∧
    (∀ (members : List (Option (String × Validator))) (value : Value),
      StopsAtFirst
        (fun member : String × Validator =>
          { calls := [member.1], verdict := (member.2.run value).verdict })
        members.reduceOption
        ((chain (members.map (Option.map fun member => watched member.1 member.2))).run
          value)) ∧
    (∀ first second third : Option Validator,
      Alike (andThen (some (andThen first second)) third)
        (andThen first (some (andThen second third)))) ∧
    (∀ (other : Option Validator) (value : Value),
      ((andThen none other).run value = shownBy value other ∧
        (andThen other none).run value = shownBy value other) ∧
      ((andThen (some always) other).run value = shownBy value other ∧
        (andThen other (some always)).run value = shownBy value other)) ∧
    (∀ members more : List (Option Validator),
      Alike (chain (members ++ more)) (andThen (some (chain members)) (some (chain more)))) ∧
    (∀ (name : String) (first second : Option Validator) (members : List (Option Validator)),
      Alike (withField (some (andThen first second)) name)
          (andThen (some (withField first name)) (some (withField second name))) ∧
        Alike (withField (some (chain members)) name)
          (chain (members.map fun member => some (withField member name)))) ∧
    (∀ (first second : Option Validator) (members : List (Option Validator)),
      Alike (optional (andThen first second))
          (andThen (first.map optional) (second.map optional)) ∧
        Alike (optional (chain members)) (chain (members.map (Option.map optional)))) ∧
    (∀ (member : Option Validator) (inner outer : String) (value : Value),
      (withField (some (withField member inner)) outer).run value =
        { calls := (shownBy value member).calls
          verdict := (shownBy value member).verdict.map (Option.map fun failure =>
            { cause := failure.cause, fieldName := outer
              path := outer :: inner :: failure.path }) }) := by
  refine ⟨stopsAtFirst_chain, stopsAtFirst_chain_watched, alike_andThen_assoc, ?_,
    alike_chain_append, ?_, ?_, run_withField_withField⟩
  · intro other value
    have missing : shownBy value none = .passed := rfl
    have always : shownBy value (some always) = .passed := run_always value
    exact ⟨run_andThen_of_passed missing other, run_andThen_of_passed always other⟩
  · intro name first second members
    exact ⟨alike_withField_andThen first second name, alike_withField_chain members name⟩
  · intro first second members
    exact ⟨alike_optional_andThen first second, alike_optional_chain members⟩

example : (chain [none, some (watched "first" always), some (watched "second" (.test .notBlank)),
    some (watched "third" always)]).run (.text " ") =
    { calls := ["first", "second"], verdict := .ok (some { cause := .blankText }) } := by
  cbv

end Validator

end FieldRules
