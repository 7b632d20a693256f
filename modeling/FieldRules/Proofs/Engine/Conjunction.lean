/-
  FieldRules/Proofs/Engine/Conjunction.lean
  =========================================
  **Joining rule texts is asking for both.**

  What is built for a rule does not depend on where the rule stands in its text.
  So the validator of joined texts is built from the rules of both, and can be
  built if those of each can; and it shows what the first text's validator
  shows, followed by what the second one's shows if the value passed so far.
-/
import FieldRules.Proofs.Engine.Frozen
import FieldRules.Proofs.Rule.Joining

namespace FieldRules

open FieldRules.Invocation (Link)
open Outcome (inOrder inOrder_append)

/-! ### Rules in another place -/

namespace Engine

variable (engine : Engine) (type : FieldType) (rule : Rule) (distance : Nat)

theorem buildRule_shift :
    engine.buildRule type (rule.shift distance) = engine.buildRule type rule := rfl

theorem ask_shift (value : Value) :
    engine.ask type (rule.shift distance) value = engine.ask type rule value := rfl

theorem inOrder_ask_shift (rules : List Rule) (value : Value) :
    inOrder (engine.ask type · value) (rules.map (Rule.shift distance)) =
      inOrder (engine.ask type · value) rules := by
  induction rules with
  | nil => rfl
  | cons rule later ih => rw [List.map_cons, inOrder, inOrder, ih, ask_shift]

end Engine

/-! ### Fields with the rules of two others -/

/-- A field has the rules of two others, those of the second one in another place. -/
structure FieldDescription.Joins (first second joined : FieldDescription) (distance : Nat) :
    Prop where
  parse_eq : Rule.parse (joined.rules.getD "") = do
    let rules ← Rule.parse (first.rules.getD "")
    let others ← Rule.parse (second.rules.getD "")
    return rules ++ others.map (Rule.shift distance)
  name_eq : first.name = joined.name ∧ second.name = joined.name
  fieldType_eq : first.fieldType = joined.fieldType ∧ second.fieldType = joined.fieldType
  optional_eq : first.optional = joined.optional ∧ second.optional = joined.optional

namespace FieldDescription.Joins

variable {engine : Engine} {first second joined : FieldDescription} {distance : Nat}
  (joins : Joins first second joined distance)

include joins

theorem parse_eq_ok_iff {rules : List Rule} :
    Rule.parse (joined.rules.getD "") = .ok rules ↔
      ∃ own others, Rule.parse (first.rules.getD "") = .ok own ∧
        Rule.parse (second.rules.getD "") = .ok others ∧
        own ++ others.map (Rule.shift distance) = rules := by
  rw [joins.parse_eq]
  simp only [bind_eq_ok_iff]
  constructor
  · rintro ⟨own, read, others, read', same⟩
    exact ⟨own, others, read, read', Except.ok.inj same⟩
  · rintro ⟨own, others, read, read', rfl⟩
    exact ⟨own, read, others, read', rfl⟩

/-- **A joined field is built if and only if both parts are.** -/
theorem exists_buildField_iff :
    (∃ validator, engine.buildField joined = .ok validator) ↔
      (∃ validator, engine.buildField first = .ok validator) ∧
        ∃ validator, engine.buildField second = .ok validator := by
  simp only [Engine.exists_buildField_iff, joins.parse_eq_ok_iff, joins.fieldType_eq.1,
    joins.fieldType_eq.2]
  constructor
  · rintro ⟨rules, ⟨own, others, read, read', rfl⟩, each⟩
    refine ⟨⟨own, read, ?_⟩, others, read', ?_⟩
    · intro rule member
      exact each rule (List.mem_append_left _ member)
    · intro rule member
      have shifted : rule.shift distance ∈ own ++ others.map (Rule.shift distance) :=
        List.mem_append_right _ (List.mem_map_of_mem member)
      rw [← engine.buildRule_shift joined.fieldType rule distance]
      exact each _ shifted
  · rintro ⟨⟨own, read, each⟩, others, read', each'⟩
    refine ⟨_, ⟨own, others, read, read', rfl⟩, ?_⟩
    intro rule member
    rcases List.mem_append.mp member with isOwn | isShifted
    · exact each rule isOwn
    · obtain ⟨other, isOther, rfl⟩ := List.mem_map.mp isShifted
      rw [engine.buildRule_shift]
      exact each' other isOther

theorem waives_eq (value : Value) :
    first.waives value = joined.waives value ∧ second.waives value = joined.waives value := by
  cases value <;> simp [waives, joins.optional_eq.1, joins.optional_eq.2]

/-- **A joined field shows what its parts show, one after the other.** -/
theorem run_eq {own other both : Validator} (builtFirst : engine.buildField first = .ok own)
    (builtSecond : engine.buildField second = .ok other)
    (builtJoined : engine.buildField joined = .ok both) (value : Value) :
    both.run value = (own.run value).andThen fun _ => other.run value := by
  have readFirst := (Engine.ready_of_buildField builtFirst).1
  have readSecond := (Engine.ready_of_buildField builtSecond).1
  have readJoined := (Engine.ready_of_buildField builtJoined).1
  obtain ⟨rules, others, read, read', sameRules⟩ := joins.parse_eq_ok_iff.mp readJoined
  obtain rfl : first.readRules = rules := Except.ok.inj (readFirst.symm.trans read)
  obtain rfl : second.readRules = others := Except.ok.inj (readSecond.symm.trans read')
  rw [Engine.run_buildField builtFirst, Engine.run_buildField builtSecond,
    Engine.run_buildField builtJoined, (joins.waives_eq value).1, (joins.waives_eq value).2,
    joins.name_eq.1, joins.name_eq.2, joins.fieldType_eq.1, joins.fieldType_eq.2]
  cases joined.waives value with
  | true => exact (Outcome.passed_andThen fun _ => .passed).symm
  | false =>
    simp only [Bool.false_eq_true, if_false]
    rw [← sameRules, inOrder_append, Engine.inOrder_ask_shift, Outcome.inField_andThen]

end FieldDescription.Joins

/-! ### Joined texts -/

namespace Engine

variable {first second : String} {firsts seconds : List Invocation}

theorem joins_ofText (link : Link) (splitFirst : Invocation.split first = .ok firsts)
    (splitSecond : Invocation.split second = .ok seconds) (nonempty : firsts ≠ [])
    (nonempty' : seconds ≠ []) (type : FieldType) (name : String) :
    FieldDescription.Joins (.ofText first type name) (.ofText second type name)
      (.ofText (first ++ String.ofList link.text ++ second) type name)
      (first ++ String.ofList link.text).length where
  parse_eq := Rule.parse_join link splitFirst splitSecond nonempty nonempty'
  name_eq := ⟨rfl, rfl⟩
  fieldType_eq := ⟨rfl, rfl⟩
  optional_eq := ⟨rfl, rfl⟩

/-- **Joining rule texts is asking for both.**  Where two texts are split into at least
    one invocation each, and nothing but blanks and at most one comma stands between
    them, the whole is read as the rules of the first and then those of the second,
    further on by what stands before them.  It is refused if and only if one of the two
    is refused, for the same type and name.  Otherwise its validator shows of every
    value what the first validator shows if the value does not pass it; and if the value
    passes, then what the second one shows, the checks of the first having run before. -/
theorem joined_texts_ask_for_both (engine : Engine) (link : Link)
    (splitFirst : Invocation.split first = .ok firsts)
    (splitSecond : Invocation.split second = .ok seconds) (nonempty : firsts ≠ [])
    (nonempty' : seconds ≠ []) :
    (Rule.parse (first ++ String.ofList link.text ++ second) = do
      let rules ← Rule.parse first
      let others ← Rule.parse second
      return rules ++ others.map (Rule.shift (first ++ String.ofList link.text).length)) ∧
    ∀ (type : FieldType) (name : String),
      ((∃ fault, engine.compile (first ++ String.ofList link.text ++ second) type name =
          .error fault) ↔
        (∃ fault, engine.compile first type name = .error fault) ∨
          ∃ fault, engine.compile second type name = .error fault) ∧
      ∀ own other, engine.compile first type name = .ok own →
        engine.compile second type name = .ok other →
        ∃ both, engine.compile (first ++ String.ofList link.text ++ second) type name = .ok both ∧
          ∀ value, (¬ (own.run value).Passes → both.run value = own.run value) ∧
            ((own.run value).Passes → both.run value =
              { calls := (own.run value).calls ++ (other.run value).calls
                verdict := (other.run value).verdict }) := by
  refine ⟨Rule.parse_join link splitFirst splitSecond nonempty nonempty', ?_⟩
  intro type name
  have joins := joins_ofText link splitFirst splitSecond nonempty nonempty' type name
  simp only [compile_eq_buildField]
  constructor
  · rw [exists_error_iff, exists_error_iff, exists_error_iff, joins.exists_buildField_iff,
      not_and_or]
  · intro own other builtFirst builtSecond
    obtain ⟨both, builtJoined⟩ := joins.exists_buildField_iff.mpr
      ⟨⟨own, builtFirst⟩, other, builtSecond⟩
    refine ⟨both, builtJoined, fun value => ?_⟩
    rw [joins.run_eq builtFirst builtSecond builtJoined value]
    exact ⟨fun stops => Outcome.andThen_of_not_passes stops _,
      fun passes => Outcome.andThen_of_passes passes _⟩

theorem joined_texts_ask_for_both_of_quoted_parenthesis :
    ∃ both, (create true).1.compile "srange('a)', '')not_empty()" (.plain "str" true) "word" =
        .ok both ∧
      (both.run (.text "b")).verdict =
        .ok (some { cause := .unlistedText "b", fieldName := "word", path := ["word"] }) ∧
      (both.run (.text "")).verdict =
        .ok (some { cause := .blankText, fieldName := "word", path := ["word"] }) := by
  have splitFirst : Invocation.split "srange('a)', '')" = .ok [⟨"srange", "'a)', ''", 0⟩] := by
    decide +kernel
  have splitSecond : Invocation.split "not_empty()" = .ok [⟨"not_empty", "", 0⟩] := by
    decide +kernel
  have shownFirst : ((create true).1.compile "srange('a)', '')" (.plain "str" true)
      "word").toOption.map (fun own => [(own.run (.text "b")).verdict, (own.run (.text "")).verdict]) =
      some [.ok (some { cause := .unlistedText "b", fieldName := "word", path := ["word"] }),
        .ok none] := by
    decide +kernel
  have shownSecond : ((create true).1.compile "not_empty()" (.plain "str" true)
      "word").toOption.map (fun other => (other.run (.text "")).verdict) =
      some (.ok (some { cause := .blankText, fieldName := "word", path := ["word"] })) := by
    decide +kernel
  obtain ⟨own, builtFirst, shown⟩ := exists_of_toOption_map shownFirst
  obtain ⟨other, builtSecond, shown'⟩ := exists_of_toOption_map shownSecond
  obtain ⟨refuses, passes⟩ := List.cons.inj shown
  have passes : (own.run (.text "")).Passes := (List.cons.inj passes).1
  have stops : ¬ (own.run (.text "b")).Passes := by
    rw [Outcome.Passes, refuses]
    nofun
  obtain ⟨both, builtJoined, shows⟩ :=
    ((joined_texts_ask_for_both (create true).1 ⟨Text.Run.empty, false, Text.Run.empty⟩ splitFirst
      splitSecond (List.cons_ne_nil _ _) (List.cons_ne_nil _ _)).2 (.plain "str" true)
      "word").2 own other builtFirst builtSecond
  refine ⟨both, builtJoined, ?_, ?_⟩
  · rw [(shows (.text "b")).1 stops, refuses]
  · rw [(shows (.text "")).2 passes, shown']

end Engine

end FieldRules
