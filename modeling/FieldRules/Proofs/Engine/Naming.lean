/-
  FieldRules/Proofs/Engine/Naming.lean
  ====================================
  **Registering, splitting and reading agree about names.**

  Names come up in three places: what is registered is given a name, the splitter
  takes the name of an invocation off the text, and the reader of arguments
  takes symbols off it.  The splitter takes for a name whatever can be registered
  (`Invocation.split_name_alone_iff`), so every rule that is registered can be
  invoked (`Engine.invokes_of_isName`).  The reader takes symbols alone: of the
  names, it reads those that are symbols, and no other one as anything
  (`Arguments.isSymbol_of_parse_name`), since the first character of a name cannot begin
  a numeral or a string, and none of its characters separates.  So a
  constant can be referred to exactly if its name is a symbol.
-/
import FieldRules.Proofs.Engine.Handing
import FieldRules.Proofs.Engine.Wrapping

namespace FieldRules

open FieldRules.Text

/-! ### Names as invocations -/

/-- **The splitter takes for a name what is one**: a text with empty parentheses behind
    it is the invocation of that text. -/
theorem Invocation.split_name_alone_iff {text : String} :
    split (text ++ "()") = .ok [{ name := text, arguments := "", offset := 0 }] ↔
      Name.isName text.toList = true := by
  constructor
  · intro accepted
    obtain ⟨written, -, same⟩ := exists_written_of_mem_split accepted List.mem_cons_self
    have named : String.ofList written.name = text := congrArg Invocation.name same
    rw [← named, String.toList_ofList]
    exact written.isName
  · intro isName
    let written : Written := ⟨text.toList, isName, Run.empty, []⟩
    have same : String.ofList written.text = text ++ "()" := by
      rw [← String.toList_inj]
      simp [written, Written.text]
    have accepted := split_text_alone written
    rw [same] at accepted
    have located : written.located 0 = { name := text, arguments := "", offset := 0 } := by
      rw [Written.located, String.ofList_toList]
      rfl
    rw [accepted, located]

/-! ### Names as arguments -/

namespace Arguments

/-- **The reader takes for a symbol what is one**, and then for nothing else. -/
theorem parse_symbol_alone_iff {text : String} :
    parse text = .ok { symbols := [text] } ↔ Name.isSymbol text.toList = true := by
  constructor
  · intro read
    exact isSymbol_of_parse read text (List.mem_singleton_self _)
  · intro isSymbol
    refine parse_eq_ok_iff_exists_written.mpr
      ⟨⟨Run.empty, [(.symbol text.toList isSymbol, Run.empty)], .inr (.inr rfl), trivial⟩, ?_, ?_⟩
    · simp [Written.text, Token.text]
    · simp [Written.values, Token.values, reduced]

theorem isNameChar_of_mem_name {name : List Char} (isName : Name.isName name = true) :
    ∀ c ∈ name, Name.isNameChar c = true := by
  obtain ⟨first, more, letter, rfl⟩ := Invocation.exists_run_of_isName isName
  intro c member
  rcases List.mem_cons.mp member with rfl | member
  · exact Invocation.isNameChar_of_isLetter letter
  · exact more.all c member

/-- Separators among the characters of a name are none. -/
theorem chars_eq_nil_of_subset_name {name : List Char} (isName : Name.isName name = true)
    {gap : Separators} (within : ∀ c ∈ gap.chars, c ∈ name) : gap.chars = [] := by
  refine List.eq_nil_iff_forall_not_mem.mpr fun c member => ?_
  have separates := gap.all c member
  rw [isSeparator_of_isNameChar (isNameChar_of_mem_name isName c (within c member))] at separates
  cases separates

/-- **Of the names, the reader takes those that are symbols.** -/
theorem isSymbol_of_parse_name {text : String} (isName : Name.isName text.toList = true)
    {arguments : Arguments} (read : parse text = .ok arguments) :
    Name.isSymbol text.toList = true := by
  obtain ⟨⟨leading, items, closed⟩, isText, -⟩ := parse_eq_ok_iff_exists_written.mp read
  have whole : leading.chars ++ itemsText items = text.toList := isText
  have noLeading : leading.chars = [] := chars_eq_nil_of_subset_name isName fun c member =>
    whole ▸ List.mem_append_left _ member
  rw [noLeading, List.nil_append] at whole
  cases items with
  | nil =>
    rw [← whole] at isName
    cases isName
  | cons item later =>
    obtain ⟨token, gap⟩ := item
    rw [itemsText_cons] at whole
    have noGap : gap.chars = [] := chars_eq_nil_of_subset_name isName fun c member =>
      whole ▸ List.mem_append_right _ (List.mem_append_left _ member)
    -- the first character tells that the token is a word, and not a numeral
    obtain ⟨first, more, letter, isFirst⟩ := Invocation.exists_run_of_isName isName
    rw [isFirst] at whole
    cases token with
    | integer digits nonempty =>
      obtain ⟨c, digit, rest, rfl⟩ := Run.eq_cons_of_ne_nil nonempty
      obtain ⟨rfl, -⟩ := List.cons.inj whole
      exact absurd digit (not_isDigit_of_isLetter letter)
    | string content printable =>
      obtain ⟨rfl, -⟩ := List.cons.inj whole
      exact absurd letter (by decide)
    | symbol name upper =>
      have noLater : later = [] := closed.1.resolve_left nofun |>.resolve_left (· noGap)
      rw [noLater, noGap, itemsText_nil, List.append_nil, List.append_nil] at whole
      rw [isFirst, ← whole]
      exact upper

end Arguments

/-! ### A rule with a word as its argument -/

/-- A text of one rule, whose argument text can stand outside of quotations, is read
    exactly if the argument text is. -/
theorem Rule.parse_call_eq_ok_iff {callee argument : String}
    (isName : Name.isName callee.toList = true)
    (free : ∀ c ∈ argument.toList, c ≠ ')' ∧ c ≠ quoteMark) {rules : List Rule} :
    Rule.parse (callee ++ "(" ++ argument ++ ")") = .ok rules ↔
      ∃ arguments, Arguments.parse argument = .ok arguments ∧
        [⟨⟨callee, String.ofList (trim argument.toList), 0⟩, arguments⟩] = rules := by
  let written : Invocation.Written :=
    ⟨callee.toList, isName, Run.empty, Arguments.plainPieces argument.toList free⟩
  have same : String.ofList written.text = callee ++ "(" ++ argument ++ ")" := by
    rw [← String.toList_inj]
    simp [written, Invocation.Written.text, Arguments.bodyText_plainPieces]
  have located : written.located 0 = ⟨callee, String.ofList (trim argument.toList), 0⟩ := by
    simp [written, Invocation.Written.located, Arguments.bodyText_plainPieces]
  have accepted := Invocation.split_text_alone written
  rw [same, located] at accepted
  have trimmed (arguments : Arguments) :
      Arguments.parse (String.ofList (trim argument.toList)) = .ok arguments ↔
        Arguments.parse argument = .ok arguments := by
    rw [Arguments.parse_trim_eq_ok_iff, String.ofList_toList]
  rw [parse_of_split accepted, mapM_eq_ok_iff]
  constructor
  · intro each
    cases each with
    | cons read rest =>
      cases rest
      obtain ⟨arguments, isRead, rfl⟩ := map_eq_ok_iff.mp read
      exact ⟨arguments, (trimmed arguments).mp isRead, rfl⟩
  · rintro ⟨arguments, isRead, rfl⟩
    exact .cons (map_eq_ok_iff.mpr ⟨arguments, (trimmed arguments).mpr isRead, rfl⟩) .nil

namespace Engine

variable {engine : Engine} {name : String} {factory : Factory} {type : FieldType}

/-! ### Rules that are invoked -/

def noArguments (engine : Engine) (type : FieldType) (name : String) : RuleArguments where
  name := name
  fieldType := type
  records := some engine.records

/-- A name with empty parentheses invokes a factory: it is handed no arguments, and the
    text is compiled if it builds anything of these. -/
structure Invokes (engine : Engine) (name : String) (factory : Factory) (type : FieldType) :
    Prop where
  hands : engine.Hands type.unwrapOptional.1 (name ++ "()") factory
    (engine.noArguments type.unwrapOptional.1 name)
  compiles_iff : ∀ fieldName,
    (∃ validator, engine.compile (name ++ "()") type fieldName = .ok validator) ↔
      ∃ built, factory.build (engine.noArguments type.unwrapOptional.1 name) = .ok built

/-- **Every rule under a name can be invoked.** -/
theorem invokes_of_isName (isName : Name.isName name.toList = true)
    (known : engine.factory name = .ok factory) : engine.Invokes name factory type := by
  have read : Rule.parse (name ++ "()") = .ok [⟨⟨name, "", 0⟩, {}⟩] := by
    have split := Invocation.split_name_alone_iff.mpr isName
    rw [Rule.parse_of_split split]
    rfl
  have resolved : engine.resolve type.unwrapOptional.1 ⟨⟨name, "", 0⟩, {}⟩ =
      .ok (engine.noArguments type.unwrapOptional.1 name) := rfl
  refine ⟨⟨_, ⟨[], [], read, List.forall_mem_nil _⟩, known, resolved⟩, fun fieldName => ?_⟩
  rw [compile_eq_buildField, exists_buildField_iff]
  constructor
  · rintro ⟨rules, isRead, each⟩
    obtain rfl : [_] = rules := Except.ok.inj (read.symm.trans isRead)
    obtain ⟨built, ready⟩ := each _ List.mem_cons_self
    obtain ⟨found, arguments, isFactory, isResolved, builds⟩ := buildRule_eq_ok_iff.mp ready
    cases known.symm.trans isFactory
    cases resolved.symm.trans isResolved
    exact ⟨built, builds⟩
  · rintro ⟨built, builds⟩
    refine ⟨_, read, fun rule member => ?_⟩
    rw [List.mem_singleton.mp member]
    exact ⟨built, buildRule_eq_ok_iff.mpr ⟨factory, _, known, resolved, builds⟩⟩

/-! ### Constants that are referred to -/

/-- A text that asks for a name as one of a list of integers is compiled only if the name
    is a symbol. -/
theorem isSymbol_of_compile_range {validator : Validator} {fieldName : String}
    (isName : Name.isName name.toList = true)
    (compiled : engine.compile ("irange(" ++ name ++ ")") type fieldName = .ok validator) :
    Name.isSymbol name.toList = true := by
  obtain ⟨rules, read, -⟩ := exists_buildField_iff.mp ⟨validator, compiled⟩
  have free : ∀ c ∈ name.toList, c ≠ ')' ∧ c ≠ quoteMark := fun c member =>
    Arguments.free_of_isNameChar (Arguments.isNameChar_of_mem_name isName c member)
  obtain ⟨arguments, isRead, -⟩ := (Rule.parse_call_eq_ok_iff (Builtin.isName_name .integerRange) free).mp read
  exact Arguments.isSymbol_of_parse_name isName isRead

/-- **A symbol stands for the integer of its name**: in a list of integers it lets that
    integer pass, and those that leave it as a remainder. -/
theorem exists_admits_of_symbol {number : Nat}
    (isSymbol : Name.isSymbol name.toList = true)
    (stands : engine.constants.lookup? name = some (.integer number))
    (known : engine.factory "irange" = .ok (.builtin .integerRange)) (type : FieldType)
    (fieldName : String) :
    ∃ validator, engine.compile ("irange(" ++ name ++ ")") type fieldName = .ok validator ∧
      validator.Admits (fun value => value % integerModulus = number) "RT102" := by
  have free : ∀ c ∈ name.toList, c ≠ ')' ∧ c ≠ quoteMark :=
    Arguments.free_of_mem_symbol isSymbol
  have read := (Rule.parse_call_eq_ok_iff (Builtin.isName_name .integerRange) free).mpr
    ⟨_, Arguments.parse_symbol_alone_iff.mpr isSymbol, rfl⟩
  have integers : engine.constants.integersOf [name] = [number] :=
    Constants.integersOf_cons_integer stands
  have builds : Builtin.integerRange.build (engine.argumentsOf type.unwrapOptional.1
      ⟨⟨"irange", String.ofList (trim name.toList), 0⟩, { symbols := [name] }⟩) =
        .ok (.test (.oneOfNumbers [(number : Int)])) := by
    simp [Builtin.build, argumentsOf, integers]
  obtain ⟨validator, built, shows⟩ := exists_compile_of_single read known
    (List.forall_mem_singleton.mpr ⟨_, stands⟩) builds fieldName
  have decides (value : Int) : (Test.oneOfNumbers [(number : Int)]).run (.integer value) =
      if value % integerModulus = number then .passed
      else .failed (.unlistedNumber (value % integerModulus).toNat) := by
    rw [Test.run_oneOfNumbers]
    exact if_congr List.mem_singleton rfl rfl
  refine ⟨validator, built, Test.admits_of_run (fun value => shows _ ?_) decides fun _ => rfl⟩
  rintro ⟨⟩

end Engine

namespace History

/-- A rule is registered under nothing but a name. -/
theorem isName_of_factory {history : History} {name : String} {factory : Factory}
    (known : history.engine.factory name = .ok factory) : Name.isName name.toList = true := by
  have found : history.engine.factories.get? name = some factory :=
    Engine.factory_eq_ok_iff.mp known
  exact history.sound.named .validator name
    (List.mem_map_of_mem (f := Prod.fst) (Table.mem_of_get? found))

/-- **A rule can be registered under a text exactly if this is a name.** -/
theorem factory_next_registerRule_iff {history : History} {text : String} {factory : Factory} :
    (history.next (.registerRule (.text text) (.factory factory))).engine.factory text =
        .ok factory ↔
      Name.isName text.toList = true := by
  constructor
  · exact isName_of_factory
  · intro isName
    have done : history.engine.registerRule (.text text) (.factory factory) =
        .ok (history.engine.setFactory text factory) :=
      Engine.registerRule_eq_ok_iff.mpr ⟨.rule text factory, .rule ⟨rfl, isName⟩, rfl⟩
    rw [engine, Engine.perform, done]
    exact Engine.factory_eq_ok_iff.mpr (Table.get?_insert_self _ _ _)

/-- **Registering, splitting and reading agree about names.**  A text is accepted as a name,
    for whatever purpose, exactly if with empty parentheses behind it the
    splitter takes it for one invocation, of that name, without arguments and at the start.
    It is read as one symbol and nothing else exactly if it is a symbol.

    So a rule can be registered under the text exactly if this is accepted as a name, and
    every rule that is registered can be invoked.  An integer that is registered
    under the text can be referred to exactly if the text is a symbol: then `irange` of it is
    compiled and lets that integer pass, and otherwise it is not compiled at all. -/
theorem names_agree (text : String) :
    (∀ purpose, (Value.text text).asName purpose = .ok text ↔
      Invocation.split (text ++ "()") = .ok [{ name := text, arguments := "", offset := 0 }]) ∧
    (Arguments.parse text = .ok { symbols := [text] } ↔ Name.isSymbol text.toList = true) ∧
    (∀ (history : History) (factory : Factory),
      ((history.next (.registerRule (.text text) (.factory factory))).engine.factory text =
          .ok factory ↔
        (Value.text text).asName "validator" = .ok text) ∧
      (history.engine.factory text = .ok factory →
        ∀ type, history.engine.Invokes text factory type)) ∧
    ∀ (history : History) (number : Nat),
      history.engine.constants.integers.get? text = some number →
      history.engine.factory "irange" = .ok (.builtin .integerRange) → ∀ type fieldName,
        ((∃ validator,
            history.engine.compile ("irange(" ++ text ++ ")") type fieldName = .ok validator ∧
            (validator.run (.integer number)).Passes) ↔
          Name.isSymbol text.toList = true) ∧
        ((∃ validator,
            history.engine.compile ("irange(" ++ text ++ ")") type fieldName = .ok validator) ↔
          Name.isSymbol text.toList = true) := by
  have accepted (purpose : String) : (Value.text text).asName purpose = .ok text ↔
      Name.isName text.toList = true :=
    Value.asName_eq_ok_iff.trans (and_iff_right rfl)
  refine ⟨fun purpose => ?_, Arguments.parse_symbol_alone_iff, fun history factory => ⟨?_, ?_⟩,
    fun history number registered known type fieldName => ?_⟩
  · rw [accepted, Invocation.split_name_alone_iff]
  · rw [accepted, factory_next_registerRule_iff]
  · intro known type
    exact Engine.invokes_of_isName (isName_of_factory known) known
  · have member : (text, number) ∈ history.engine.constants.integers := Table.mem_of_get? registered
    have isName : Name.isName text.toList = true :=
      history.sound.named .integer text (List.mem_map_of_mem (f := Prod.fst) member)
    have fits : number < integerModulus := history.sound.constants.fits _ member
    have refers (isSymbol : Name.isSymbol text.toList = true) : ∃ validator,
        history.engine.compile ("irange(" ++ text ++ ")") type fieldName = .ok validator ∧
        (validator.run (.integer number)).Passes := by
      have stands : history.engine.constants.lookup? text = some (.integer number) := by
        rw [Constants.lookup?, registered]
      obtain ⟨validator, built, admits⟩ :=
        Engine.exists_admits_of_symbol isSymbol stands known type fieldName
      exact ⟨validator, built, (admits.passes_iff _).mpr
        (Int.emod_eq_of_lt (Int.natCast_nonneg number) (Int.ofNat_lt.mpr fits))⟩
    constructor
    · constructor
      · rintro ⟨validator, compiled, -⟩
        exact Engine.isSymbol_of_compile_range isName compiled
      · exact refers
    · constructor
      · rintro ⟨validator, compiled⟩
        exact Engine.isSymbol_of_compile_range isName compiled
      · intro isSymbol
        obtain ⟨validator, compiled, -⟩ := refers isSymbol
        exact ⟨validator, compiled⟩

/-- An integer under a name in small letters, and one under a symbol. -/
def bounded : History :=
  ((start true).next (.registerInteger (.text "limit") (.integer 7))).next
    (.registerInteger (.text "LIMIT") (.integer 18446744073709551615))

/-- The greatest integer is referred to by its symbol, the one under a name in small letters
    cannot be, and a rule under such a name is invoked. -/
theorem names_agree_for_limit :
    (∃ validator, bounded.engine.compile "irange(LIMIT)" .absent "number" = .ok validator ∧
      (validator.run (.integer 18446744073709551615)).Passes) ∧
    (¬ ∃ validator, bounded.engine.compile "irange(limit)" .absent "number" = .ok validator) ∧
    (start true).engine.Invokes "not_empty" (.builtin .notEmpty) .absent := by
  obtain ⟨-, -, -, capitals⟩ := names_agree "LIMIT"
  obtain ⟨-, -, -, small⟩ := names_agree "limit"
  obtain ⟨-, -, rules, -⟩ := names_agree "not_empty"
  refine ⟨?_, ?_, (rules (start true) (.builtin .notEmpty)).2 rfl .absent⟩
  · exact ((capitals bounded 18446744073709551615 (by decide +kernel) rfl .absent "number").1).mpr
      (by decide)
  · intro compiled
    have isSymbol := ((small bounded 7 (by decide +kernel) rfl .absent "number").2).mp compiled
    exact absurd isSymbol (by decide)

end History

end FieldRules
