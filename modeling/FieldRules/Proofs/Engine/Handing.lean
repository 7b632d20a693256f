/-
  FieldRules/Proofs/Engine/Handing.lean
  =====================================
  **What factories are handed.**

  While rule text is built, a factory is called with the arguments of its rule
  once everything in front of the rule is built and its symbols are resolved
  (`Engine.Hands`).  What is built depends on the factories in nothing else
  (`buildRules_eq_of_hands`).

  An integer comes to a factory in one of three ways: it is written in the text, where it is
  reduced to 64 bits as it is read; it was registered, and refused if it did not
  fit; or it stood in a file of constants, where the same holds.  The first is a
  property of the reader (`fits_of_parse`), the others of the tables
  (`History.sound`), so every integer fits (`handed_integers_fit`).
-/
import FieldRules.Proofs.Arguments.Reading
import FieldRules.Proofs.Engine.Calls
import FieldRules.Proofs.Engine.Demands
import FieldRules.Proofs.Rule.Rendering

namespace FieldRules

/-! ### Rules as they are read -/

namespace Arguments

theorem fits_of_reduced {arguments : Arguments} {value : Nat}
    (member : value ∈ arguments.reduced.integers) : value < integerModulus := by
  obtain ⟨whole, -, rfl⟩ := List.mem_map.mp member
  exact Nat.mod_lt _ (by decide)

theorem isSymbol_of_mem_itemsValues {items : List Item} {symbol : String}
    (member : symbol ∈ (itemsValues items).symbols) : Name.isSymbol symbol.toList = true := by
  induction items with
  | nil => cases member
  | cons item rest ih =>
    obtain ⟨token, gap⟩ := item
    rw [itemsValues_cons] at member
    rcases List.mem_append.mp member with first | later
    · cases token with
      | symbol name upper =>
        rw [List.mem_singleton.mp first]
        simpa using upper
      | integer digits nonempty => cases first
      | string content printable => cases first
    · exact ih later

variable {text : String} {arguments : Arguments}

theorem fits_of_parse (read : parse text = .ok arguments) :
    ∀ value ∈ arguments.integers, value < integerModulus := by
  obtain ⟨written, -, rfl⟩ := parse_eq_ok_iff_exists_written.mp read
  intro value member
  exact fits_of_reduced member

theorem isSymbol_of_parse (read : parse text = .ok arguments) :
    ∀ symbol ∈ arguments.symbols, Name.isSymbol symbol.toList = true := by
  obtain ⟨written, -, rfl⟩ := parse_eq_ok_iff_exists_written.mp read
  intro symbol member
  exact isSymbol_of_mem_itemsValues member

end Arguments

/-! ### What stands for a symbol -/

namespace Constants

variable {constants : Constants} {symbols : List String}

theorem fits_of_lookup? (sound : constants.Sound) {name : String} {number : Nat}
    (stands : constants.lookup? name = some (.integer number)) : number < integerModulus := by
  unfold lookup? at stands
  split at stands
  · rename_i found
    cases stands
    exact sound.fits (name, number) (Table.mem_of_get? found)
  · cases there : constants.strings.get? name <;> simp [there] at stands

theorem fits_of_integersOf (sound : constants.Sound) :
    ∀ number ∈ constants.integersOf symbols, number < integerModulus := by
  intro number member
  obtain ⟨symbol, -, stands⟩ := List.mem_filterMap.mp member
  split at stands
  · rename_i found
    cases stands
    exact fits_of_lookup? sound found
  · cases stands

end Constants

namespace Engine

variable {engine other : Engine} {type : FieldType} {text : String} {factory : Factory}
  {arguments : RuleArguments}

/-! ### Calls of factories -/

/-- In building rule text, building gets to a rule: all rules in front of it are built. -/
def GetsTo (engine : Engine) (type : FieldType) (text : String) (rule : Rule) : Prop :=
  ∃ before after, Rule.parse text = .ok (before ++ rule :: after) ∧
    ∀ earlier ∈ before, ∃ built, engine.buildRule type earlier = .ok built

/-- In building rule text, a factory is called with arguments. -/
def Hands (engine : Engine) (type : FieldType) (text : String) (factory : Factory)
    (arguments : RuleArguments) : Prop :=
  ∃ rule, engine.GetsTo type text rule ∧ engine.factory rule.name = .ok factory ∧
    engine.resolve type rule = .ok arguments

/-- In building rule text, a name is looked up as a constant: it is a symbol of a rule that
    has a factory, and the symbols in front of it stand for constants. -/
def LooksUp (engine : Engine) (type : FieldType) (text : String) (name : String) : Prop :=
  ∃ rule, engine.GetsTo type text rule ∧ (∃ factory, engine.factory rule.name = .ok factory) ∧
    ∃ before after, rule.arguments.symbols = before ++ name :: after ∧
      ∀ symbol ∈ before, ∃ constant, engine.constants.lookup? symbol = some constant

/-- **What is built depends on the factories at the calls alone.**  If another engine has
    factories of the same names that do the same when they are called, it builds the same. -/
theorem buildRules_eq_of_hands {rules : List Rule} (read : Rule.parse text = .ok rules)
    (constants : other.constants = engine.constants) (records : other.records = engine.records)
    (factories : ∀ name, (∃ fault, engine.factory name = .error fault ∧
        other.factory name = .error fault) ∨
      ∃ factory replacement, engine.factory name = .ok factory ∧
        other.factory name = .ok replacement ∧ ∀ arguments,
          engine.Hands type text factory arguments →
            replacement.build arguments = factory.build arguments) :
    other.buildRules type rules = engine.buildRules type rules := by
  have resolves (rule : Rule) : other.resolve type rule = engine.resolve type rule := by
    unfold resolve
    rw [constants, records]
  -- going along the rules, everything in front is built
  have alike (before rest : List Rule) (split : rules = before ++ rest)
      (ready : ∀ earlier ∈ before, ∃ built, engine.buildRule type earlier = .ok built) :
      other.buildRules type rest = engine.buildRules type rest := by
    induction rest generalizing before with
    | nil => rfl
    | cons rule rest ih =>
      have getsTo : engine.GetsTo type text rule := ⟨before, rest, split ▸ read, ready⟩
      have same : other.buildRule type rule = engine.buildRule type rule := by
        unfold buildRule
        rcases factories rule.name with
          ⟨fault, unknown, unknownHere⟩ | ⟨factory, replacement, known, knownHere, calls⟩
        · rw [unknown, unknownHere]
        · rw [known, knownHere, resolves]
          cases resolved : engine.resolve type rule with
          | error fault => rfl
          | ok arguments =>
            simp only [calls arguments ⟨rule, getsTo, known, resolved⟩]
      rw [buildRules, buildRules, same]
      cases built : engine.buildRule type rule with
      | error fault => rfl
      | ok validator =>
        have later := ih (before ++ [rule]) (by simp [split]) (by
          intro earlier member
          rcases List.mem_append.mp member with inFront | isRule
          · exact ready earlier inFront
          · rw [List.mem_singleton.mp isRule]
            exact ⟨validator, built⟩)
        simp only [later]
  exact alike [] rules rfl (List.forall_mem_nil _)

theorem GetsTo.mem_parse {rule : Rule} (getsTo : engine.GetsTo type text rule) :
    ∃ rules, Rule.parse text = .ok rules ∧ rule ∈ rules := by
  obtain ⟨before, after, read, -⟩ := getsTo
  exact ⟨_, read, List.mem_append_right _ List.mem_cons_self⟩

theorem fits_of_hands (sound : engine.Sound) (hands : engine.Hands type text factory arguments) :
    ∀ integer ∈ arguments.integers, 0 ≤ integer ∧ integer < integerModulus := by
  obtain ⟨rule, getsTo, -, resolved⟩ := hands
  obtain ⟨rules, read, member⟩ := getsTo.mem_parse
  obtain ⟨-, rfl⟩ := resolve_eq_ok_iff.mp resolved
  have isRead := (Rule.exists_split_of_mem_parse read member).2
  intro integer isInteger
  obtain ⟨number, isNumber, rfl⟩ := List.mem_map.mp isInteger
  have fits : number < integerModulus := by
    rcases List.mem_append.mp isNumber with written | constant
    · exact Arguments.fits_of_parse isRead number written
    · exact Constants.fits_of_integersOf sound.constants number constant
  exact ⟨Int.natCast_nonneg number, Int.ofNat_lt.mpr fits⟩

end Engine

namespace History

/-- **Every integer that comes to a factory fits in 64 unsigned bits**, whatever was registered,
    loaded from files or done otherwise before, and whatever the rule text says.  The factory
    is called by a name that is a name, and the names that are looked up as
    constants on the way are symbols. -/
theorem handed_integers_fit (history : History) (type : FieldType) (text : String) :
    (∀ factory arguments, history.engine.Hands type text factory arguments →
      (∀ integer ∈ arguments.integers, 0 ≤ integer ∧ integer < integerModulus) ∧
        Name.isName arguments.name.toList = true) ∧
    ∀ name, history.engine.LooksUp type text name → Name.isSymbol name.toList = true := by
  constructor
  · intro factory arguments hands
    refine ⟨Engine.fits_of_hands history.sound hands, ?_⟩
    obtain ⟨rule, getsTo, -, resolved⟩ := hands
    obtain ⟨rules, read, member⟩ := getsTo.mem_parse
    obtain ⟨-, rfl⟩ := Engine.resolve_eq_ok_iff.mp resolved
    exact Rule.isName_of_mem_parse read member
  · rintro name ⟨rule, getsTo, -, before, after, symbols, -⟩
    obtain ⟨rules, read, member⟩ := getsTo.mem_parse
    have isSymbol := Arguments.isSymbol_of_parse (Rule.exists_split_of_mem_parse read member).2
    rw [symbols] at isSymbol
    exact isSymbol name (List.mem_append_right _ List.mem_cons_self)

/-- The greatest constant that can be registered. -/
def topped : History :=
  (start true).next (.registerInteger (.text "TOP") (.integer 18446744073709551615))

/-- The literal is 2^64 + 3, and three of it comes to the factory. -/
theorem handed_integers_fit_of_top :
    ∃ factory arguments,
      topped.engine.Hands .absent "irange(18446744073709551619, TOP)" factory arguments ∧
        arguments.integers = [3, 18446744073709551615] ∧
        ∀ integer ∈ arguments.integers, 0 ≤ integer ∧ integer < integerModulus := by
  have written : (Rule.parse "irange(18446744073709551619, TOP)").toOption.map (·.map fun rule =>
      (rule.name, (topped.engine.resolve .absent rule).toOption.map (·.integers))) =
        some [("irange", some [3, 18446744073709551615])] := by
    decide +kernel
  obtain ⟨rules, read, resolved⟩ := exists_of_toOption_map written
  obtain ⟨rule, rfl, isRule⟩ := List.map_eq_singleton_iff.mp resolved
  obtain ⟨isRange, resolves⟩ := Prod.mk.inj isRule
  obtain ⟨arguments, resolved, integers⟩ := exists_of_toOption_map resolves
  have known : topped.engine.factory rule.name = .ok (.builtin .integerRange) := by
    rw [isRange]
    rfl
  have hands : topped.engine.Hands .absent "irange(18446744073709551619, TOP)"
      (.builtin .integerRange) arguments :=
    ⟨rule, ⟨[], [], read, List.forall_mem_nil _⟩, known, resolved⟩
  exact ⟨_, arguments, hands, integers,
    ((handed_integers_fit topped .absent _).1 _ arguments hands).1⟩

end History

end FieldRules
