/-
  FieldRules/Proofs/Engine/Inlining.lean
  ======================================
  **Writing constants out changes no meaning.**

  Resolving puts what symbols stand for behind what is written, so a literal in
  the place of a symbol comes earlier among the arguments.  But the arguments are
  the same with their repetitions, kind by kind, and so are the symbols that stand
  for nothing, in their order (`SameWorth`).  This holds of every token, and it
  is kept as tokens follow each other.

  Rules that ask whether a value is among their arguments cannot tell the
  difference, and rules that look at their first argument cannot if they have one
  argument only (`map_run_build_eq`).  So from both texts validators are built
  that show the same, or both are refused for the same reason.
-/
import FieldRules.Proofs.Engine.Frozen
import FieldRules.Proofs.Engine.Handing
import FieldRules.Proofs.Engine.Resolving
import FieldRules.Proofs.Rule.Inlining
import Mathlib.Algebra.Order.Group.Multiset

namespace FieldRules

open FieldRules.Text

/-! ### Arguments of the same worth -/

namespace Constants

variable {constants : Constants}

/-- Some arguments come to the same as others: to the same integers and the same strings, each
    as often, and with the same symbols that stand for nothing, in their order. -/
structure SameWorth (constants : Constants) (arguments other : Arguments) : Prop where
  integers : (↑arguments.integers + ↑(constants.integersOf arguments.symbols) : Multiset Nat) =
    ↑other.integers + ↑(constants.integersOf other.symbols)
  strings : (↑arguments.strings + ↑(constants.stringsOf arguments.symbols) : Multiset String) =
    ↑other.strings + ↑(constants.stringsOf other.symbols)
  unknown : arguments.symbols.filter (!constants.has ·) = other.symbols.filter (!constants.has ·)

theorem SameWorth.refl (arguments : Arguments) : constants.SameWorth arguments arguments :=
  ⟨rfl, rfl, rfl⟩

@[simp] theorem integersOf_nil : constants.integersOf [] = [] := rfl

@[simp] theorem stringsOf_nil : constants.stringsOf [] = [] := rfl

theorem integersOf_append (symbols more : List String) :
    constants.integersOf (symbols ++ more) =
      constants.integersOf symbols ++ constants.integersOf more :=
  List.filterMap_append

theorem stringsOf_append (symbols more : List String) :
    constants.stringsOf (symbols ++ more) =
      constants.stringsOf symbols ++ constants.stringsOf more :=
  List.filterMap_append

/-- **The worth of arguments is that of the first ones and of those behind them.** -/
theorem SameWorth.append {first other second other' : Arguments}
    (same : constants.SameWorth first other) (same' : constants.SameWorth second other') :
    constants.SameWorth (first.append second) (other.append other') where
  integers := by
    simp only [Arguments.append, integersOf_append, ← Multiset.coe_add]
    rw [add_add_add_comm, same.integers, same'.integers, add_add_add_comm]
  strings := by
    simp only [Arguments.append, stringsOf_append, ← Multiset.coe_add]
    rw [add_add_add_comm, same.strings, same'.strings, add_add_add_comm]
  unknown := by
    simp only [Arguments.append, List.filter_append]
    rw [same.unknown, same'.unknown]

theorem sameWorth_of_lookup? {name : String} {constant : Constant}
    (stands : constants.lookup? name = some constant) :
    constants.SameWorth constant.values { symbols := [name] } := by
  have known : constants.has name = true := exists_lookup?_iff.mp ⟨constant, stands⟩
  cases constant with
  | integer value =>
    refine ⟨?_, ?_, ?_⟩
    · simp [Constant.values, integersOf_cons_integer stands]
    · simp [Constant.values, stringsOf_cons_integer stands]
    · simp [Constant.values, known]
  | string value =>
    refine ⟨?_, ?_, ?_⟩
    · simp [Constant.values, integersOf_cons_string stands]
    · simp [Constant.values, stringsOf_cons_string stands]
    · simp [Constant.values, known]

/-! ### Literals for symbols -/

theorem reduced_values_of_lookup? (sound : constants.Sound) {name : String} {constant : Constant}
    (stands : constants.lookup? name = some constant) :
    constant.values.reduced = constant.values := by
  refine Arguments.reduced_of_lt ?_
  cases constant with
  | integer value =>
    intro number member
    rw [List.mem_singleton.mp member]
    exact fits_of_lookup? sound stands
  | string value => exact List.forall_mem_nil _

theorem sameWorth_inline (sound : constants.Sound) (token : Arguments.Token) :
    constants.SameWorth (token.inline constants).values.reduced token.values.reduced := by
  obtain ⟨unchanged, -⟩ | ⟨name, upper, constant, rfl, stands, values⟩ :=
    token.inline_cases constants
  · rw [unchanged]
    exact .refl _
  · rw [values, reduced_values_of_lookup? sound stands]
    exact sameWorth_of_lookup? stands

theorem sameWorth_inlineItems (sound : constants.Sound) (items : List Arguments.Item) :
    constants.SameWorth (Arguments.itemsValues (Arguments.inlineItems constants items)).reduced
      (Arguments.itemsValues items).reduced := by
  induction items with
  | nil => exact .refl _
  | cons item later ih =>
    obtain ⟨token, gap⟩ := item
    rw [Arguments.inlineItems_cons, Arguments.itemsValues_cons, Arguments.itemsValues_cons,
      Arguments.reduced_append, Arguments.reduced_append]
    exact (sameWorth_inline sound token).append ih

end Constants

/-! ### Rules that do not mind the order of their arguments -/

/-- Whether a built-in rule looks at the first of its arguments alone. -/
def Builtin.readsFirst : Builtin → Bool
  | max | min | length | regex => true
  | integerRange | stringRange | notEmpty | record => false

/-- Arguments of a rule are others in another order, kind by kind. -/
structure RuleArguments.Rearranges (arguments other : RuleArguments) : Prop where
  integers : arguments.integers.Perm other.integers
  strings : arguments.strings.Perm other.strings
  rest : { arguments with integers := other.integers, strings := other.strings } = other

theorem eq_of_perm_of_length_le_one {α : Type} {items others : List α} (perm : items.Perm others)
    (few : items.length ≤ 1) : items = others := by
  match items, few with
  | [], _ => exact perm.nil_eq
  | [item], _ => exact List.singleton_perm.mp perm

namespace Builtin

variable {rule : Builtin} {arguments other : RuleArguments}

/-- **What a built-in rule builds does not depend on the order of its arguments**, unless it
    looks at the first and there are more. -/
theorem map_run_build_eq (rearranges : arguments.Rearranges other)
    (few : rule.readsFirst = true → arguments.integers.length + arguments.strings.length ≤ 1)
    (value : Value) :
    (rule.build arguments).map (·.run value) = (rule.build other).map (·.run value) := by
  by_cases reads : rule.readsFirst = true
  · have few := few reads
    have integers := eq_of_perm_of_length_le_one rearranges.integers (by omega)
    have strings := eq_of_perm_of_length_le_one rearranges.strings (by omega)
    rw [← rearranges.rest, ← integers, ← strings]
  · rw [← rearranges.rest]
    cases rule with
    | max | min | length | regex => exact absurd rfl reads
    | integerRange =>
      simp only [build, Except.map, Validator.run, Test.run, rearranges.integers.contains_eq]
    | stringRange =>
      simp only [build, Except.map, Validator.run, Test.run, rearranges.strings.contains_eq]
    | notEmpty => rfl
    | record => rfl

end Builtin

namespace Engine

variable {engine : Engine} {type : FieldType} {rule other : Rule} {rules others : List Rule}

/-- A rule does not mind the order of its arguments: if it has a factory, then that of a
    built-in rule, and one that looks at the first argument has one argument at most. -/
def TakesInAnyOrder (engine : Engine) (rule : Rule) : Prop :=
  ∀ factory, engine.factory rule.name = .ok factory → ∃ builtin : Builtin,
    factory = .builtin builtin ∧ (builtin.readsFirst = true → rule.arguments.size ≤ 1)

theorem takesInAnyOrder_of_factory {builtin : Builtin}
    (known : engine.factory rule.name = .ok (.builtin builtin))
    (few : builtin.readsFirst = true → rule.arguments.size ≤ 1) : engine.TakesInAnyOrder rule := by
  intro factory isFactory
  obtain rfl : Factory.builtin builtin = factory := Except.ok.inj (known.symm.trans isFactory)
  exact ⟨builtin, rfl, few⟩

/-- **Arguments of the same worth are resolved alike**: they fail at the same symbol, or come to
    the same up to their order. -/
theorem resolve_cases_of_sameWorth (type : FieldType) (sameName : other.name = rule.name)
    (worth : engine.constants.SameWorth other.arguments rule.arguments) :
    (∃ fault, engine.resolve type rule = .error fault ∧ engine.resolve type other = .error fault) ∨
      ∃ arguments arguments', engine.resolve type rule = .ok arguments ∧
        engine.resolve type other = .ok arguments' ∧ arguments.Rearranges arguments' ∧
        arguments.integers.length + arguments.strings.length = rule.arguments.size := by
  have unknown : other.arguments.symbols.find? (!engine.constants.has ·) =
      rule.arguments.symbols.find? (!engine.constants.has ·) := by
    rw [← List.head?_filter, ← List.head?_filter, worth.unknown]
  cases resolved : engine.resolve type rule with
  | error fault =>
    rw [resolve_eq_error_iff, ← unknown, ← resolve_eq_error_iff] at resolved
    exact .inl ⟨fault, rfl, resolved⟩
  | ok arguments =>
    obtain ⟨stand, rfl⟩ := resolve_eq_ok_iff.mp resolved
    have stand' := stand
    rw [← Constants.find?_not_has_eq_none_iff, ← unknown,
      Constants.find?_not_has_eq_none_iff] at stand'
    refine .inr ⟨_, engine.argumentsOf type other, rfl, resolve_eq_ok_iff.mpr ⟨stand', rfl⟩, ?_,
      size_argumentsOf stand⟩
    refine ⟨List.Perm.map _ ?_, ?_, ?_⟩
    · exact (Multiset.coe_eq_coe.mp worth.integers).symm
    · exact (Multiset.coe_eq_coe.mp worth.strings).symm
    · rw [argumentsOf, argumentsOf, sameName]

/-- **Rules of the same worth are built alike**, if the order of arguments makes no difference. -/
theorem map_shownBy_buildRule_eq (ordered : engine.TakesInAnyOrder rule)
    (sameName : other.name = rule.name)
    (worth : engine.constants.SameWorth other.arguments rule.arguments) (value : Value) :
    (engine.buildRule type rule).map (Validator.shownBy value) =
      (engine.buildRule type other).map (Validator.shownBy value) := by
  unfold buildRule
  rw [sameName]
  cases known : engine.factory rule.name with
  | error fault => rfl
  | ok factory =>
    obtain ⟨builtin, rfl, few⟩ := ordered factory known
    obtain ⟨fault, fails, fails'⟩ |
        ⟨arguments, arguments', resolved, resolved', rearranges, size⟩ :=
      resolve_cases_of_sameWorth type sameName worth
    · rw [fails, fails']
    · rw [resolved, resolved']
      have same := Builtin.map_run_build_eq rearranges (fun reads => size ▸ few reads) value
      obtain ⟨fault, fails, fails'⟩ | ⟨validator, validator', built, built', runs⟩ :=
        map_eq_map_iff.mp same
      · simp only [Factory.build, fails, fails', Except.map]
      · simp only [Factory.build, built, built', Except.map, Validator.shownBy, runs]

theorem map_shownBy_buildRules_eq {value : Value}
    (alike : List.Forall₂ (fun rule other =>
      (engine.buildRule type rule).map (Validator.shownBy value) =
        (engine.buildRule type other).map (Validator.shownBy value)) rules others) :
    (engine.buildRules type rules).map (List.map (Validator.shownBy value)) =
      (engine.buildRules type others).map (List.map (Validator.shownBy value)) := by
  induction alike with
  | nil => rfl
  | cons first _ ih =>
    rw [buildRules, buildRules]
    obtain ⟨fault, fails, fails'⟩ | ⟨validator, validator', built, built', shown⟩ :=
      map_eq_map_iff.mp first
    · rw [fails, fails']
    · rw [built, built']
      obtain ⟨fault, fails, fails'⟩ | ⟨validators, validators', later, later', shownLater⟩ :=
        map_eq_map_iff.mp ih
      · simp only [fails, fails', Except.map]
      · simp only [later, later', Except.map, List.map_cons, shown, shownLater]

/-- **Fields whose rules are built alike are built alike.** -/
theorem map_run_buildField_eq {field field' : FieldDescription} {value : Value}
    (sameName : field'.name = field.name) (sameType : field'.fieldType = field.fieldType)
    (sameOption : field'.optional = field.optional)
    (read : Rule.parse (field.rules.getD "") = .ok rules)
    (read' : Rule.parse (field'.rules.getD "") = .ok others)
    (alike : List.Forall₂ (fun rule other =>
      (engine.buildRule field.fieldType rule).map (Validator.shownBy value) =
        (engine.buildRule field.fieldType other).map (Validator.shownBy value)) rules others) :
    (engine.buildField field).map (·.run value) =
      (engine.buildField field').map (·.run value) := by
  rw [buildField, buildField, read, read', sameName, sameType, sameOption]
  obtain ⟨fault, fails, fails'⟩ | ⟨built, built', ready, ready', shown⟩ :=
    map_eq_map_iff.mp (map_shownBy_buildRules_eq alike)
  · simp only [fails, fails', Except.map]
  · have chained : (Validator.chain built).run value = (Validator.chain built').run value := by
      rw [Validator.run_chain, Validator.run_chain]
      rw [← List.forall₂_eq_eq_eq, List.forall₂_map_left_iff, List.forall₂_map_right_iff] at shown
      exact Outcome.inOrder_eq_of_forall₂ shown
    simp only [ready, ready', Except.map, Validator.withField]
    by_cases optional : field.optional = true
    · rw [if_pos optional, if_pos optional]
      cases value <;> simp [Validator.run, chained]
    · rw [if_neg optional, if_neg optional]
      simp [Validator.run, chained]

/-- A rule whose constants are written out is built alike. -/
theorem map_shownBy_buildRule_inline_eq (sound : engine.constants.Sound) (spelled : Rule.Spelled)
    (offset place : Nat) (ordered : engine.TakesInAnyOrder (spelled.located offset))
    (value : Value) :
    (engine.buildRule type (spelled.located offset)).map (Validator.shownBy value) =
      (engine.buildRule type ((spelled.inline engine.constants).located place)).map
        (Validator.shownBy value) := by
  have sameName : ((spelled.inline engine.constants).located place).name =
      (spelled.located offset).name := rfl
  have worth : engine.constants.SameWorth
      ((spelled.inline engine.constants).located place).arguments
      (spelled.located offset).arguments :=
    Constants.sameWorth_inlineItems sound spelled.arguments.items
  exact map_shownBy_buildRule_eq ordered sameName worth value

/-- **Writing constants out changes nothing of what is compiled.** -/
theorem map_run_compile_eq_of_inlines (sound : engine.constants.Sound) {text inlined : String}
    (read : Rule.parse text = .ok rules)
    (ordered : ∀ rule ∈ rules, engine.TakesInAnyOrder rule)
    (inlines : Rule.Inlines engine.constants text inlined) (type : FieldType) (name : String)
    (value : Value) :
    (engine.compile text type name).map (·.run value) =
      (engine.compile inlined type name).map (·.run value) := by
  obtain ⟨others, read', spelled⟩ := Rule.exists_parse_of_inlines read inlines
  rw [compile_eq_buildField, compile_eq_buildField]
  refine map_run_buildField_eq rfl rfl rfl read read' ?_
  refine ((List.forall₂_and_left _ _).mpr ⟨ordered, spelled⟩).imp ?_
  rintro rule other ⟨ordered, spelled, offset, place, rfl, rfl⟩
  exact map_shownBy_buildRule_inline_eq sound spelled offset place ordered value

end Engine

namespace History

/-- **Writing constants out preserves the meaning of rule text**, whatever was registered or
    loaded before.  Let no rule of a text mind the order of its arguments: it lists numbers or
    texts, as many as it likes, or it looks at one argument and has no more.  Then a literal
    can be written for every symbol that has one, and what comes of it is read as the same
    rules; the symbols that are left stand for nothing, or for a string that is not printable.
    For every type and name it is compiled exactly if the text is, and refused with the same
    fault otherwise, and its validator shows of every value what that of the text shows. -/
theorem inlining_preserves_meaning (history : History) {text : String} {rules : List Rule}
    (read : Rule.parse text = .ok rules)
    (ordered : ∀ rule ∈ rules, history.engine.TakesInAnyOrder rule) :
    (∃ inlined, Rule.Inlines history.engine.constants text inlined) ∧
    ∀ inlined, Rule.Inlines history.engine.constants text inlined →
      (∃ others, Rule.parse inlined = .ok others ∧
        others.map Rule.name = rules.map Rule.name ∧
        ∀ rule ∈ others, ∀ symbol ∈ rule.arguments.symbols, ∀ constant,
          history.engine.constants.lookup? symbol = some constant →
            ∃ value, constant = .string value ∧
              ∃ c ∈ value.toList, Text.isPrintable c = false) ∧
      ∀ (type : FieldType) (name : String),
        ((∃ validator, history.engine.compile inlined type name = .ok validator) ↔
          ∃ validator, history.engine.compile text type name = .ok validator) ∧
        (∀ fault, history.engine.compile inlined type name = .error fault ↔
          history.engine.compile text type name = .error fault) ∧
        ∀ validator other, history.engine.compile text type name = .ok validator →
          history.engine.compile inlined type name = .ok other →
          ∀ value, other.run value = validator.run value := by
  refine ⟨Rule.exists_inlines read, fun inlined inlines => ⟨?_, fun type name => ?_⟩⟩
  · obtain ⟨others, read', spelled⟩ := Rule.exists_parse_of_inlines read inlines
    refine ⟨others, read', ?_, ?_⟩
    · rw [← List.forall₂_eq_eq_eq, List.forall₂_map_left_iff, List.forall₂_map_right_iff]
      refine spelled.flip.imp ?_
      rintro _ _ ⟨spelled, offset, place, rfl, rfl⟩
      rfl
    · intro other member symbol left constant stands
      obtain ⟨_, -, spelled, offset, place, -, rfl⟩ := exists_left_of_forall₂ spelled member
      exact Constants.exists_unprintable_of_literal?
        (Arguments.literal?_eq_none_of_mem_inlineItems _ symbol left) stands
  · have alike (value : Value) := Engine.map_run_compile_eq_of_inlines history.sound.constants read
      ordered inlines type name value
    obtain ⟨fault, fails, fails'⟩ | ⟨validator, other, built, built', -⟩ :=
      map_eq_map_iff.mp (alike .none)
    · rw [fails, fails']
      simp
    · rw [built, built']
      refine ⟨by simp, by simp, ?_⟩
      rintro _ _ ⟨⟩ ⟨⟩ value
      have runs := alike value
      rw [built, built'] at runs
      exact (Except.ok.inj runs).symm

/-- An engine with an integer and a string with a quote in it. -/
def marked : History :=
  ((start true).next (.registerInteger (.text "TOP") (.integer 5))).next
    (.registerString (.text "MARK") (.text "it's"))

/-- Two rules, as they are spelled, with a symbol in front of a literal. -/
def markedRules : Invocation.Sequence Rule.Spelled where
  before := Run.empty
  first :=
    { name := "srange".toList, isName := by decide, gap := Run.empty
      arguments :=
        { leading := Run.empty
          items :=
            [(.symbol "MARK".toList (by decide), Arguments.commaBlank),
              (.string [.plain '3' (by decide)] (by simp [QuotedChar.char]; decide), Run.empty)]
          closed := by simp [Arguments.Closed, Arguments.commaBlank] } }
  others :=
    [(⟨Run.empty, true, ⟨[' '], List.all_eq_true.mp (by decide)⟩⟩,
      { name := "max".toList, isName := by decide, gap := Run.empty
        arguments :=
          { leading := Run.empty
            items := [(.symbol "TOP".toList (by decide), Run.empty)]
            closed := by simp [Arguments.Closed] } })]
  after := Run.empty

theorem inlines_markedRules :
    Rule.Inlines marked.engine.constants "srange(MARK, '3'), max(TOP)"
      "srange('it\\'s', '3'), max(5)" :=
  .inr ⟨markedRules, by decide +kernel, by decide +kernel⟩

theorem inlining_preserves_meaning_of_quote :
    ∃ validator other,
      marked.engine.compile "srange(MARK, '3'), max(TOP)" (.plain "str" true) "word" =
        .ok validator ∧
      marked.engine.compile "srange('it\\'s', '3'), max(5)" (.plain "str" true) "word" =
        .ok other ∧
      (∀ value, other.run value = validator.run value) ∧
      (other.run (.text "3")).verdict = .ok none := by
  have names : (Rule.parse "srange(MARK, '3'), max(TOP)").toOption.map (·.map fun rule =>
      (rule.name, rule.arguments.size)) = some [("srange", 2), ("max", 1)] := by
    decide +kernel
  obtain ⟨rules, read, named⟩ := exists_of_toOption_map names
  have ordered : ∀ rule ∈ rules, marked.engine.TakesInAnyOrder rule := by
    intro rule member
    have isNamed : (rule.name, rule.arguments.size) ∈ [("srange", 2), ("max", 1)] :=
      named ▸ List.mem_map_of_mem member
    simp only [List.mem_cons, Prod.mk.injEq, List.not_mem_nil, or_false] at isNamed
    rcases isNamed with ⟨isRange, -⟩ | ⟨isMax, size⟩
    · have known : marked.engine.factory rule.name = .ok (.builtin .stringRange) := by
        rw [isRange]
        rfl
      exact Engine.takesInAnyOrder_of_factory known nofun
    · have known : marked.engine.factory rule.name = .ok (.builtin .max) := by
        rw [isMax]
        rfl
      exact Engine.takesInAnyOrder_of_factory known fun _ => Nat.le_of_eq size
  have shown : (marked.engine.compile "srange(MARK, '3'), max(TOP)" (.plain "str" true)
      "word").toOption.map (fun validator => (validator.run (.text "3")).verdict) =
        some (.ok none) := by
    decide +kernel
  obtain ⟨validator, built, passes⟩ := exists_of_toOption_map shown
  obtain ⟨-, same⟩ := (inlining_preserves_meaning marked read ordered).2 _ inlines_markedRules
  obtain ⟨compiles, -, runs⟩ := same (.plain "str" true) "word"
  obtain ⟨other, built'⟩ := compiles.mpr ⟨validator, built⟩
  have alike := runs validator other built built'
  exact ⟨validator, other, built, built', alike, by rw [alike, passes]⟩

end History

end FieldRules
