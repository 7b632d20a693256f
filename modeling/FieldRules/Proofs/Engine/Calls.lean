/-
  FieldRules/Proofs/Engine/Calls.lean
  ===================================
  **A call sets one entry, takes a rule away, or fails.**

  Rules and constants are registered one at a time.  Whether such a call succeeds
  does not depend on what is registered: it needs a name that is a name and
  something to register under it (`Call.Sets`).  Only taking a rule away needs
  the rule to be there.  One equivalence says all that a call can do
  (`Engine.make_eq_ok_iff`).

  The tables of an engine are in order (`Engine.Sound`) when all that stands in
  them has a name that is a name, every integer has a place in 64 unsigned bits,
  and each name stands in a table once.  No operation can spoil this, a file of
  constants included, so it holds in every history (`History.sound`).
-/
import FieldRules.Proofs.Engine.History
import FieldRules.Proofs.Engine.Loading

namespace FieldRules

/-- A value that is accepted as a name is the text of that name, and a name. -/
def Value.Names (value : Value) (name : String) : Prop :=
  value.text? = some name ∧ Name.isName name.toList = true

/-! ### Entries and calls -/

/-- What one of the tables of an engine says of a name. -/
inductive Entry where
  | rule (name : String) (factory : Factory)
  | constant (name : String) (constant : Constant)

namespace Entry

def name : Entry → String
  | rule name _ => name
  | constant name _ => name

def use : Entry → NameUse
  | rule _ _ => .validator
  | constant _ (.integer _) => .integer
  | constant _ (.string _) => .string

end Entry

/-- A call that registers one rule or constant, or takes a rule away. -/
inductive Call where
  | registerRule (name : Value) (candidate : Candidate)
  | deregisterRule (name : String)
  | registerInteger (name value : Value)
  | registerString (name value : Value)

namespace Call

def operation : Call → Operation
  | registerRule name candidate => .registerRule name candidate
  | deregisterRule name => .deregisterRule name
  | registerInteger name value => .registerInteger name value
  | registerString name value => .registerString name value

def ofConstant (name : String) : Constant → Call
  | .integer value => .registerInteger (.text name) (.integer value)
  | .string value => .registerString (.text name) (.text value)

/-- A call registers an entry: it has a name for it, and a factory, an integer that has a
    place in 64 unsigned bits, or a text. -/
inductive Sets : Call → Entry → Prop
  | rule {value : Value} {name : String} {factory : Factory} (names : value.Names name) :
      Sets (.registerRule value (.factory factory)) (.rule name factory)
  | integer {value : Value} {name : String} {number : Nat} (names : value.Names name)
      (fits : number < integerModulus) :
      Sets (.registerInteger value (.integer number)) (.constant name (.integer number))
  | string {value content : Value} {name text : String} (names : value.Names name)
      (isText : content.text? = some text) :
      Sets (.registerString value content) (.constant name (.string text))

theorem Sets.isName {call : Call} {entry : Entry} (sets : call.Sets entry) :
    Name.isName entry.name.toList = true := by
  cases sets with
  | rule names => exact names.2
  | integer names fits => exact names.2
  | string names isText => exact names.2

theorem Sets.unique {call : Call} {entry other : Entry} (sets : call.Sets entry)
    (again : call.Sets other) : entry = other := by
  cases sets with
  | rule names =>
    cases again with
    | rule otherNames => rw [Option.some.inj (names.1.symm.trans otherNames.1)]
  | integer names fits =>
    cases again with
    | integer otherNames otherFits => rw [Option.some.inj (names.1.symm.trans otherNames.1)]
  | string names isText =>
    cases again with
    | string otherNames otherIsText =>
      rw [Option.some.inj (names.1.symm.trans otherNames.1),
        Option.some.inj (isText.symm.trans otherIsText)]

end Call

/-! ### What a call does -/

namespace Engine

variable {engine : Engine} {call : Call} {entry other : Entry} {result : Engine × List Notice}

/-- Makes an entry, in place of the one of its table and name, and what is noted about it. -/
def put (engine : Engine) : Entry → Engine × List Notice
  | .rule name factory => engine.setFactory name factory
  | .constant name constant =>
    let (constants, notices) := engine.constants.put (name, constant)
    ({ engine with constants := constants }, notices)

def make (engine : Engine) : Call → Except Error (Engine × List Notice)
  | .registerRule name candidate => engine.registerRule name candidate
  | .deregisterRule name => (engine.deregisterRule name).map fun next => (next, [])
  | .registerInteger name value => engine.registerInteger name value
  | .registerString name value => engine.registerString name value

theorem registerRule_eq_ok_iff {name : Value} {candidate : Candidate} :
    engine.registerRule name candidate = .ok result ↔
      ∃ entry, (Call.registerRule name candidate).Sets entry ∧ engine.put entry = result := by
  unfold registerRule
  constructor
  · intro done
    split at done
    · cases done
    · rename_i known isName
      split at done
      · cases done
        exact ⟨_, .rule (Value.asName_eq_ok_iff.mp isName), rfl⟩
      · cases done
  · rintro ⟨entry, sets, rfl⟩
    cases sets with
    | rule names =>
      rw [Value.asName_eq_ok_iff.mpr names]
      rfl

theorem registerInteger_eq_ok_iff {name value : Value} :
    engine.registerInteger name value = .ok result ↔
      ∃ entry, (Call.registerInteger name value).Sets entry ∧ engine.put entry = result := by
  unfold registerInteger
  constructor
  · intro done
    split at done
    · cases done
    · rename_i constants notices registered
      cases done
      obtain ⟨known, number, unsigned, names, rfl, isUnsigned, same⟩ :=
        Constants.registerInteger_eq_ok_iff.mp registered
      obtain ⟨rfl, fits⟩ := unsigned?_eq_some_iff.mp isUnsigned
      refine ⟨_, .integer (Value.asName_eq_ok_iff.mp names) fits, ?_⟩
      simp only [put, Constants.put, same]
  · rintro ⟨entry, sets, rfl⟩
    cases sets with
    | integer names fits =>
      rw [Constants.registerInteger_eq_ok_iff.mpr
        ⟨_, _, _, Value.asName_eq_ok_iff.mpr names, rfl, unsigned?_natCast fits, rfl⟩]
      rfl

theorem registerString_eq_ok_iff {name value : Value} :
    engine.registerString name value = .ok result ↔
      ∃ entry, (Call.registerString name value).Sets entry ∧ engine.put entry = result := by
  unfold registerString
  constructor
  · intro done
    split at done
    · cases done
    · rename_i constants notices registered
      cases done
      obtain ⟨known, content, names, isText, same⟩ :=
        Constants.registerString_eq_ok_iff.mp registered
      refine ⟨_, .string (Value.asName_eq_ok_iff.mp names) isText, ?_⟩
      simp only [put, Constants.put, same]
  · rintro ⟨entry, sets, rfl⟩
    cases sets with
    | string names isText =>
      rw [Constants.registerString_eq_ok_iff.mpr
        ⟨_, _, Value.asName_eq_ok_iff.mpr names, isText, rfl⟩]
      rfl

theorem deregisterRule_eq_ok_iff {name : String} {next : Engine} :
    engine.deregisterRule name = .ok next ↔
      engine.factory? name ≠ none ∧
        { engine with factories := engine.factories.erase name } = next := by
  unfold deregisterRule factory
  cases engine.factory? name with
  | none => simp
  | some factory => simp

/-- **All that a call can do**: it sets an entry, or takes away a rule that is there. -/
theorem make_eq_ok_iff :
    engine.make call = .ok result ↔
      (∃ entry, call.Sets entry ∧ engine.put entry = result) ∨
      ∃ name, call = .deregisterRule name ∧ engine.factory? name ≠ none ∧
        ({ engine with factories := engine.factories.erase name }, []) = result := by
  cases call with
  | registerRule name candidate =>
    rw [Engine.make, registerRule_eq_ok_iff]
    simp
  | registerInteger name value =>
    rw [Engine.make, registerInteger_eq_ok_iff]
    simp
  | registerString name value =>
    rw [Engine.make, registerString_eq_ok_iff]
    simp
  | deregisterRule name =>
    have nothing (entry : Entry) : ¬ (Call.deregisterRule name).Sets entry := nofun
    rw [Engine.make, map_eq_ok_iff]
    simp [deregisterRule_eq_ok_iff, nothing]

theorem perform_operation (engine : Engine) (call : Call) :
    engine.perform call.operation = engine.afterwards (·.1) (engine.make call) := by
  cases call with
  | deregisterRule name =>
    rw [Call.operation, perform, Engine.make]
    cases engine.deregisterRule name <;> rfl
  | _ => rfl

def names (engine : Engine) : NameUse → List String
  | .validator => engine.factories.names
  | .integer => engine.constants.integers.names
  | .string => engine.constants.strings.names

/-- The tables of an engine are in order. -/
structure Sound (engine : Engine) : Prop where
  constants : engine.constants.Sound
  named : ∀ use, ∀ name ∈ engine.names use, Name.isName name.toList = true

theorem mem_names_put_iff {use : NameUse} {name : String} :
    name ∈ (engine.put entry).1.names use ↔
      (use = entry.use ∧ name = entry.name) ∨ name ∈ engine.names use := by
  rcases entry with ⟨known, factory⟩ | ⟨known, number | text⟩ <;> cases use <;>
    simp [put, setFactory, Constants.put, Constants.setInteger, Constants.setString, names,
      Entry.use, Entry.name, Table.mem_names_insert_iff]

theorem Sound.put (sound : engine.Sound) (sets : call.Sets entry) :
    (engine.put entry).1.Sound where
  constants := by
    cases sets with
    | rule names => exact sound.constants
    | integer names fits => exact sound.constants.insertInteger _ fits
    | string names isText => exact sound.constants.insertString _ _
  named use name member := by
    rcases mem_names_put_iff.mp member with ⟨-, rfl⟩ | before
    · exact sets.isName
    · exact sound.named use name before

theorem Sound.erase (sound : engine.Sound) (name : String) :
    Sound { engine with factories := engine.factories.erase name } where
  constants := sound.constants
  named use other member := by
    cases use with
    | validator =>
      obtain ⟨item, kept, isName⟩ := List.mem_map.mp member
      exact sound.named .validator other
        (List.mem_map.mpr ⟨item, List.mem_of_mem_filter kept, isName⟩)
    | integer => exact sound.named .integer other member
    | string => exact sound.named .string other member

/-- A call leaves the tables in order. -/
theorem Sound.make (sound : engine.Sound) (done : engine.make call = .ok result) :
    result.1.Sound := by
  rcases make_eq_ok_iff.mp done with ⟨entry, sets, rfl⟩ | ⟨name, -, -, rfl⟩
  · exact sound.put sets
  · exact sound.erase name

theorem Sound.afterwards {α : Type} {next : α → Engine} {result : Except Error α}
    (sound : engine.Sound) (kept : ∀ value, result = .ok value → (next value).Sound) :
    (engine.afterwards next result).Sound := by
  cases result with
  | error error => exact sound
  | ok value => exact kept value rfl

theorem registerEach_cons_eq {name : String} {constant : Constant}
    {rest : List (String × Constant)} :
    (engine.registerEach ((name, constant) :: rest)).1 =
      match engine.make (.ofConstant name constant) with
      | .error _ => engine
      | .ok (next, _) => (next.registerEach rest).1 := by
  cases constant with
  | integer value =>
    simp only [registerEach, Call.ofConstant, make]
    cases engine.registerInteger (.text name) (.integer value) <;> rfl
  | string value =>
    simp only [registerEach, Call.ofConstant, make]
    cases engine.registerString (.text name) (.text value) <;> rfl

theorem Sound.registerEach (sound : engine.Sound) (entries : List (String × Constant)) :
    (engine.registerEach entries).1.Sound := by
  induction entries generalizing engine with
  | nil => exact sound
  | cons entry rest ih =>
    rw [registerEach_cons_eq]
    cases made : engine.make (.ofConstant entry.1 entry.2) with
    | error error => exact sound
    | ok result => exact ih (sound.make made)

theorem Sound.loadConstants (sound : engine.Sound) (path : String)
    (read : FilePath → FileContent) : (engine.loadConstants path read).engine.Sound := by
  unfold Engine.loadConstants
  cases Constants.ofFile path read with
  | error fault => exact sound
  | ok constants =>
    dsimp only
    generalize registered : engine.registerEach _ = outcome
    have kept : outcome.1.Sound := by
      rw [← registered]
      exact sound.registerEach _
    obtain ⟨last, notices, error | ⟨⟩⟩ := outcome
    · exact kept
    · exact kept

theorem Sound.perform (sound : engine.Sound) (operation : Operation) :
    (engine.perform operation).Sound := by
  have calls (call : Call) : (engine.perform call.operation).Sound := by
    rw [perform_operation]
    exact sound.afterwards fun result done => sound.make done
  cases operation with
  | registerRule name candidate => exact calls (.registerRule name candidate)
  | deregisterRule name => exact calls (.deregisterRule name)
  | registerInteger name value => exact calls (.registerInteger name value)
  | registerString name value => exact calls (.registerString name value)
  | loadConstants path read => exact sound.loadConstants path read
  | registerRecord subject =>
    refine sound.afterwards fun registration done => ?_
    rcases registerRecord_eq_ok_iff.mp done with
      ⟨validator, -, rfl⟩ | ⟨-, described, validator, -, -, rfl⟩
    · exact sound
    · exact ⟨sound.constants, sound.named⟩
  | compile rules type name => exact sound
  | validate value => exact sound

/-! ### Creation -/

def callsOf (table : Table Factory) : List Call :=
  table.map fun (name, factory) => .registerRule (.text name) (.factory factory)

theorem setFactories_eq {table : Table Factory}
    (named : ∀ name ∈ table.names, Name.isName name.toList = true) (engine : Engine) :
    (engine.setFactories table).1 =
      engine.performAll ((callsOf table).map Call.operation) := by
  induction table generalizing engine with
  | nil => rfl
  | cons head rest ih =>
    obtain ⟨name, factory⟩ := head
    have named : Name.isName name.toList = true ∧
        ∀ other ∈ Table.names rest, Name.isName other.toList = true := by
      simpa [Table.names] using named
    have set : engine.perform (.registerRule (.text name) (.factory factory)) =
        (engine.setFactory name factory).1 := by
      have done : engine.registerRule (.text name) (.factory factory) =
          .ok (engine.setFactory name factory) :=
        registerRule_eq_ok_iff.mpr ⟨.rule name factory, .rule ⟨rfl, named.1⟩, rfl⟩
      rw [perform, done]
      rfl
    rw [setFactories]
    dsimp only
    rw [ih named.2, ← set]
    rfl

/-- The calls by which an engine is created: the built-in rules are registered, or none. -/
def creation (builtins : Bool) : List Call :=
  if builtins then callsOf (Builtin.all.map fun rule => (rule.name, .builtin rule)) else []

/-- An engine is created by registering its rules, one after the other. -/
theorem create_eq (builtins : Bool) :
    (create builtins).1 = performAll {} ((creation builtins).map Call.operation) := by
  cases builtins with
  | false => rfl
  | true =>
    have named : ∀ name ∈
        Table.names (Builtin.all.map fun rule => (rule.name, Factory.builtin rule)),
        Name.isName name.toList = true := by
      decide
    exact setFactories_eq named {}

theorem Sound.performAll (sound : engine.Sound) (operations : List Operation) :
    (engine.performAll operations).Sound := by
  induction operations generalizing engine with
  | nil => exact sound
  | cons operation rest ih => exact ih (sound.perform operation)

theorem sound_empty : Sound {} where
  constants := Constants.sound_empty
  named use name member := by
    cases use <;> cases member

end Engine

/-- **The tables of an engine are in order**, whatever has been done with it. -/
theorem History.sound (history : History) : history.engine.Sound := by
  induction history with
  | start builtins =>
    rw [History.engine, Engine.create_eq]
    exact Engine.sound_empty.performAll _
  | next past operation ih => exact ih.perform operation

end FieldRules
