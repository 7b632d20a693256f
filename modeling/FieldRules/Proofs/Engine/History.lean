/-
  FieldRules/Proofs/Engine/History.lean
  =====================================
  **What has been done with an engine, from its creation on.**

  A history is the creation of an engine and the operations after it, those
  that failed included.  The engine it leads to, the validators that were
  compiled on the way, and the moment at which each record was registered are
  read off it.

  One lemma says all that an operation can do to the records
  (`records_next`): nothing, or one validator more at the end, which was built
  in the engine before, for a class that was not registered.  From it follow,
  by induction on the history, that records stay (`Reaches.records_isPrefix`),
  that every record comes from a registration (`exists_registered`), and that no
  class is registered twice (`pairwise_records`).  What a history answers goes by
  its engine likewise (`answers_followedBy`).
-/
import FieldRules.Engine.Operations
import FieldRules.Proofs.Engine.Building

namespace FieldRules

/-! ### Operations -/

/-- What is to be registered as a record: a class, and its description or the
    fault of having none. -/
structure Subject where
  cls : RecordClass
  description : Except DescriptionFault RecordDescription
  cls_eq : ∀ described, description = .ok described → described.cls = cls

def Subject.ofDescription (description : RecordDescription) : Subject where
  cls := description.cls
  description := .ok description
  cls_eq := by
    intro described same
    rw [Except.ok.inj same]

theorem RecordDescription.cls_of_ofDefinition {scope : TypeText.Scope}
    {definition : RecordDefinition} {described : RecordDescription}
    (told : ofDefinition scope definition = .ok described) : described.cls = definition.cls := by
  unfold ofDefinition at told
  split at told
  · cases told
  · split at told
    · cases told
      rfl
    · cases told

def Subject.ofDefinition (scope : TypeText.Scope) (definition : RecordDefinition) : Subject where
  cls := definition.cls
  description := RecordDescription.ofDefinition scope definition
  cls_eq _ := RecordDescription.cls_of_ofDefinition

inductive Operation where
  | registerRule (name : Value) (candidate : Candidate)
  | deregisterRule (name : String)
  | registerInteger (name value : Value)
  | registerString (name value : Value)
  | loadConstants (path : String) (read : FilePath → FileContent)
  | registerRecord (subject : Subject)
  | compile (rules : String) (type : FieldType) (name : String)
  | validate (value : Value)

namespace Engine

def withRecord (engine : Engine) (validator : RecordValidator) : Engine :=
  { engine with records := engine.records ++ [validator] }

def afterwards {α : Type} (engine : Engine) (next : α → Engine) : Except Error α → Engine
  | .ok result => next result
  | .error _ => engine

/-- The engine after an operation, whether it succeeds or fails. -/
def perform (engine : Engine) : Operation → Engine
  | .registerRule name candidate => engine.afterwards (·.1) (engine.registerRule name candidate)
  | .deregisterRule name => engine.afterwards id (engine.deregisterRule name)
  | .registerInteger name value => engine.afterwards (·.1) (engine.registerInteger name value)
  | .registerString name value => engine.afterwards (·.1) (engine.registerString name value)
  | .loadConstants path read => (engine.loadConstants path read).engine
  | .registerRecord subject =>
    engine.afterwards (·.engine) (engine.registerRecord subject.cls subject.description)
  | .compile _ _ _ => engine
  | .validate _ => engine

end Engine

/-! ### Histories -/

/-- The creation of an engine, with the built-in rules or without, and the
    operations after it. -/
inductive History where
  | start (builtins : Bool)
  | next (past : History) (operation : Operation)

namespace History

def engine : History → Engine
  | start builtins => (Engine.create builtins).1
  | next past operation => past.engine.perform operation

def compiled : History → List Validator
  | start _ => []
  | next past (.compile rules type name) =>
    match past.engine.compile rules type name with
    | .ok validator => past.compiled ++ [validator]
    | .error _ => past.compiled
  | next past _ => past.compiled

def length : History → Nat
  | start _ => 0
  | next past _ => past.length + 1

/-- The later history begins with the earlier one. -/
inductive Reaches : (earlier later : History) → Prop
  | refl (history : History) : Reaches history history
  | next {earlier later : History} (operation : Operation) (reaches : Reaches earlier later) :
      Reaches earlier (later.next operation)

/-- In a history a record was registered when some past had passed: by this
    description, for a class that was not registered, with this validator. -/
inductive Registered :
    (history past : History) → RecordDescription → RecordValidator → Prop
  | now {past : History} {description : RecordDescription} {validator : RecordValidator}
      (subject : Subject) (described : subject.description = .ok description)
      (fresh : past.engine.record? subject.cls = none)
      (built : past.engine.buildRecord description = .ok validator) :
      Registered (past.next (.registerRecord subject)) past description validator
  | before {history past : History} {description : RecordDescription}
      {validator : RecordValidator} (operation : Operation)
      (registered : Registered history past description validator) :
      Registered (history.next operation) past description validator

end History

/-! ### What an operation does to the records -/

namespace Engine

variable {engine : Engine}

theorem records_create (builtins : Bool) : (create builtins).1.records = [] := by
  cases builtins <;> rfl

/-- Registering a rule sets the factory that is handed over, under a name. -/
theorem registerRule_eq_ok {name : Value} {candidate : Candidate} {result : Engine × List Notice}
    (done : engine.registerRule name candidate = .ok result) :
    ∃ known factory, candidate = .factory factory ∧ result = engine.setFactory known factory := by
  unfold registerRule at done
  split at done
  · cases done
  · split at done
    · cases done
      exact ⟨_, _, rfl, rfl⟩
    · cases done

theorem deregisterRule_eq_ok {name : String} {next : Engine}
    (done : engine.deregisterRule name = .ok next) :
    next = { engine with factories := engine.factories.erase name } := by
  unfold deregisterRule at done
  split at done
  · cases done
  · cases done
    rfl

/-- Registering an integer changes nothing but the constants. -/
theorem registerInteger_eq_ok {name value : Value} {result : Engine × List Notice}
    (done : engine.registerInteger name value = .ok result) :
    ∃ constants, result.1 = { engine with constants := constants } := by
  unfold registerInteger at done
  split at done
  · cases done
  · cases done
    exact ⟨_, rfl⟩

theorem registerString_eq_ok {name value : Value} {result : Engine × List Notice}
    (done : engine.registerString name value = .ok result) :
    ∃ constants, result.1 = { engine with constants := constants } := by
  unfold registerString at done
  split at done
  · cases done
  · cases done
    exact ⟨_, rfl⟩

theorem exists_registerEach_eq (entries : List (String × Constant)) (engine : Engine) :
    ∃ constants, (engine.registerEach entries).1 = { engine with constants := constants } := by
  induction entries generalizing engine with
  | nil => exact ⟨_, rfl⟩
  | cons entry rest ih =>
    obtain ⟨name, constant⟩ := entry
    cases constant with
    | integer value =>
      simp only [registerEach]
      cases done : engine.registerInteger (.text name) (.integer value) with
      | error error => exact ⟨_, rfl⟩
      | ok result =>
        obtain ⟨_, first⟩ := registerInteger_eq_ok done
        obtain ⟨constants, later⟩ := ih result.1
        exact ⟨constants, by rw [later, first]⟩
    | string value =>
      simp only [registerEach]
      cases done : engine.registerString (.text name) (.text value) with
      | error error => exact ⟨_, rfl⟩
      | ok result =>
        obtain ⟨_, first⟩ := registerString_eq_ok done
        obtain ⟨constants, later⟩ := ih result.1
        exact ⟨constants, by rw [later, first]⟩

/-- **Loading constants changes nothing but the constants.** -/
theorem exists_loadConstants_eq (engine : Engine) (path : String)
    (read : FilePath → FileContent) :
    ∃ constants, (engine.loadConstants path read).engine = { engine with constants } := by
  unfold loadConstants
  cases Constants.ofFile path read with
  | error fault => exact ⟨_, rfl⟩
  | ok constants =>
    dsimp only
    generalize registered : engine.registerEach _ = outcome
    have kept : ∃ constants, outcome.1 = { engine with constants } := by
      rw [← registered]
      exact exists_registerEach_eq _ engine
    obtain ⟨last, notices, error | ⟨⟩⟩ := outcome
    · exact kept
    · exact kept

theorem records_afterwards {α : Type} {next : α → Engine} {result : Except Error α}
    (kept : ∀ value, result = .ok value → (next value).records = engine.records) :
    (engine.afterwards next result).records = engine.records := by
  cases result with
  | error error => rfl
  | ok value => exact kept value rfl

/-- **Registering a record** gives the validator that is there, or builds one. -/
theorem registerRecord_eq_ok_iff {cls : RecordClass}
    {description : Except DescriptionFault RecordDescription} {registration : Registration} :
    engine.registerRecord cls description = .ok registration ↔
      (∃ validator, engine.record? cls = some validator ∧
        registration = ⟨engine, validator, true⟩) ∨
      (engine.record? cls = none ∧ ∃ described validator, description = .ok described ∧
        engine.buildRecord described = .ok validator ∧
        registration = ⟨engine.withRecord validator, validator, false⟩) := by
  unfold registerRecord
  cases engine.record? cls with
  | some validator => simp [eq_comm]
  | none =>
    cases description with
    | error fault => simp
    | ok described =>
      cases result : engine.buildRecord described with
      | error fault => simp [result]
      | ok validator => simp [result, withRecord, eq_comm]

end Engine

namespace History

variable {history past : History} {description : RecordDescription} {validator : RecordValidator}

theorem engine_next_registerRecord (past : History) (subject : Subject) :
    (past.next (.registerRecord subject)).engine =
      past.engine.afterwards (·.engine)
        (past.engine.registerRecord subject.cls subject.description) := rfl

/-- **An operation leaves the records as they are, or registers one.** -/
theorem records_next (past : History) (operation : Operation) :
    (past.next operation).engine.records = past.engine.records ∨
      ∃ description validator,
        (past.next operation).Registered past description validator ∧
        (past.next operation).engine.records = past.engine.records ++ [validator] := by
  cases operation with
  | registerRule name candidate =>
    refine .inl (Engine.records_afterwards fun result done => ?_)
    obtain ⟨known, factory, -, rfl⟩ := Engine.registerRule_eq_ok done
    rfl
  | deregisterRule name =>
    refine .inl (Engine.records_afterwards fun next done => ?_)
    obtain rfl := Engine.deregisterRule_eq_ok done
    rfl
  | registerInteger name value =>
    refine .inl (Engine.records_afterwards fun result done => ?_)
    obtain ⟨constants, same⟩ := Engine.registerInteger_eq_ok done
    rw [same]
  | registerString name value =>
    refine .inl (Engine.records_afterwards fun result done => ?_)
    obtain ⟨constants, same⟩ := Engine.registerString_eq_ok done
    rw [same]
  | loadConstants path read =>
    obtain ⟨constants, same⟩ := Engine.exists_loadConstants_eq past.engine path read
    have kept := congrArg Engine.records same
    exact .inl kept
  | registerRecord subject =>
    rw [engine_next_registerRecord]
    cases result : past.engine.registerRecord subject.cls subject.description with
    | error error => exact .inl rfl
    | ok registration =>
      rcases Engine.registerRecord_eq_ok_iff.mp result with
        ⟨validator, -, rfl⟩ | ⟨fresh, description, validator, described, built, rfl⟩
      · exact .inl rfl
      · exact .inr ⟨description, validator, .now subject described fresh built, rfl⟩
  | compile rules type name => exact .inl rfl
  | validate value => exact .inl rfl

/-! ### The records of a history -/

theorem records_isPrefix_next (past : History) (operation : Operation) :
    past.engine.records <+: (past.next operation).engine.records := by
  rcases past.records_next operation with same | ⟨description, validator, -, added⟩
  · exact ⟨[], by rw [List.append_nil, same]⟩
  · rw [added]
    exact List.prefix_append _ _

/-- **Records stay**, each at its place. -/
theorem Reaches.records_isPrefix {earlier later : History} (reaches : earlier.Reaches later) :
    earlier.engine.records <+: later.engine.records := by
  induction reaches with
  | refl => exact List.prefix_rfl
  | next operation _ ih => exact ih.trans (records_isPrefix_next _ operation)

theorem compiled_next_of_compile {rules name : String} {type : FieldType} {compiled : Validator}
    (compiles : past.engine.compile rules type name = .ok compiled) :
    (past.next (.compile rules type name)).compiled = past.compiled ++ [compiled] := by
  rw [History.compiled, compiles]

theorem compiled_isPrefix_next (past : History) (operation : Operation) :
    past.compiled <+: (past.next operation).compiled := by
  cases operation with
  | compile rules type name =>
    change past.compiled <+: match past.engine.compile rules type name with
      | .ok validator => past.compiled ++ [validator]
      | .error _ => past.compiled
    split
    · exact List.prefix_append _ _
    · exact List.prefix_rfl
  | _ => exact List.prefix_rfl

theorem Reaches.compiled_isPrefix {earlier later : History} (reaches : earlier.Reaches later) :
    earlier.compiled <+: later.compiled := by
  induction reaches with
  | refl => exact List.prefix_rfl
  | next operation _ ih => exact ih.trans (compiled_isPrefix_next _ operation)

/-- **Every record comes from a registration.** -/
theorem exists_registered (member : validator ∈ history.engine.records) :
    ∃ past description, history.Registered past description validator := by
  induction history with
  | start builtins =>
    unfold engine at member
    rw [Engine.records_create] at member
    cases member
  | next before operation ih =>
    rcases before.records_next operation with same | ⟨description, added, registered, records⟩
    · rw [same] at member
      obtain ⟨past, description, registered⟩ := ih member
      exact ⟨past, description, registered.before operation⟩
    · rw [records] at member
      rcases List.mem_append.mp member with earlier | last
      · obtain ⟨past, description, registered⟩ := ih earlier
        exact ⟨past, description, registered.before operation⟩
      · obtain rfl := List.mem_singleton.mp last
        exact ⟨before, description, registered⟩

theorem Registered.built (registered : history.Registered past description validator) :
    past.engine.buildRecord description = .ok validator := by
  induction registered with
  | now subject described fresh built => exact built
  | before operation _ ih => exact ih

theorem Registered.length_lt (registered : history.Registered past description validator) :
    past.length < history.length := by
  induction registered with
  | now subject described fresh built => exact Nat.lt_succ_self _
  | before operation _ ih => exact Nat.lt_succ_of_lt ih

theorem Registered.records_isPrefix (registered : history.Registered past description validator) :
    past.engine.records ++ [validator] <+: history.engine.records := by
  induction registered with
  | now subject described fresh built =>
    rename_i past description validator
    have performed : past.engine.registerRecord subject.cls subject.description =
        .ok ⟨past.engine.withRecord validator, validator, false⟩ :=
      Engine.registerRecord_eq_ok_iff.mpr (.inr ⟨fresh, description, validator, described, built,
        rfl⟩)
    rw [engine_next_registerRecord, performed]
    exact List.prefix_rfl
  | before operation _ ih => exact ih.trans (records_isPrefix_next _ operation)

/-- The class of a registered record was not registered before. -/
theorem Registered.ne_of_mem (registered : history.Registered past description validator) :
    ∀ other ∈ past.engine.records, other.cls.id ≠ validator.cls.id := by
  induction registered with
  | before operation _ ih => exact ih
  | now subject described fresh built =>
    intro other member same
    have cls : _ = subject.cls :=
      (Engine.buildRecord_eq_ok_iff.mp built).1.trans (subject.cls_eq _ described)
    have absent := List.find?_eq_none.mp fresh other member
    rw [same, cls] at absent
    exact absent (beq_self_eq_true _)

/-- **No class is registered twice.** -/
theorem pairwise_records (history : History) :
    history.engine.records.Pairwise fun first second => first.cls.id ≠ second.cls.id := by
  induction history with
  | start builtins =>
    unfold engine
    rw [Engine.records_create]
    exact .nil
  | next before operation ih =>
    rcases before.records_next operation with same | ⟨description, added, registered, records⟩
    · rw [same]
      exact ih
    · rw [records, List.pairwise_append]
      refine ⟨ih, List.pairwise_singleton _ _, ?_⟩
      intro other member last isLast
      rw [List.mem_singleton.mp isLast]
      exact registered.ne_of_mem other member

end History

/-! ### Answers -/

/-- What an operation gives back: what it notes, and its result or its error. -/
inductive Answer where
  | noted (result : Except Error (List Notice))
  | loaded (notices : List Notice) (result : Except Error Nat)
  | registered (result : Except Error (RecordValidator × Bool))
  | compiled (result : Except Error Validator)
  | judged (result : Except Error Outcome)

namespace Engine

def registerSubject (engine : Engine) (subject : Subject) : Except Error Registration :=
  engine.registerRecord subject.cls subject.description

def answer (engine : Engine) : Operation → Answer
  | .registerRule name candidate => .noted ((engine.registerRule name candidate).map (·.2))
  | .deregisterRule name => .noted ((engine.deregisterRule name).map fun _ => [])
  | .registerInteger name value => .noted ((engine.registerInteger name value).map (·.2))
  | .registerString name value => .noted ((engine.registerString name value).map (·.2))
  | .loadConstants path read =>
    let loading := engine.loadConstants path read
    .loaded loading.notices loading.result
  | .registerRecord subject =>
    .registered ((engine.registerSubject subject).map fun done => (done.validator, done.reused))
  | .compile rules type name => .compiled ((engine.compile rules type name).mapError .build)
  | .validate value => .judged (engine.validate value)

def performAll (engine : Engine) (operations : List Operation) : Engine :=
  operations.foldl perform engine

def answersTo (engine : Engine) : List Operation → List Answer
  | [] => []
  | operation :: rest => engine.answer operation :: (engine.perform operation).answersTo rest

end Engine

namespace History

def followedBy (past : History) : List Operation → History
  | [] => past
  | operation :: rest => (past.next operation).followedBy rest

def answers : History → List Answer
  | start _ => []
  | next past operation => past.answers ++ [past.engine.answer operation]

theorem engine_followedBy (past : History) (later : List Operation) :
    (past.followedBy later).engine = past.engine.performAll later := by
  induction later generalizing past with
  | nil => rfl
  | cons operation rest ih => exact ih (past.next operation)

theorem answers_followedBy (past : History) (later : List Operation) :
    (past.followedBy later).answers = past.answers ++ past.engine.answersTo later := by
  induction later generalizing past with
  | nil => simp [followedBy, Engine.answersTo]
  | cons operation rest ih =>
    rw [followedBy, ih, answers, List.append_assoc, List.singleton_append]
    rfl

/-! ### An engine with two records -/

def addressClass : RecordClass where
  id := 0
  name := "Address"
  qualifiedName := "Address"
  ancestors := []

def personClass : RecordClass where
  id := 1
  name := "Person"
  qualifiedName := "Person"
  ancestors := []

def address : RecordDescription where
  cls := addressClass
  fields := [{ name := "floor", fieldType := .plain "int" false, rules := some "min(LOWEST)" }]

def person : RecordDescription where
  cls := personClass
  fields := [{ name := "home", fieldType := .record addressClass, rules := some "strct()" }]

/-- Addresses have floors, from the first one on, and persons have an address. -/
def residents : History :=
  (((start true).next (.registerInteger (.text "LOWEST") (.integer 1))).next
    (.registerRecord (.ofDescription address))).next (.registerRecord (.ofDescription person))

/-- The attributes of a person who lives on a floor. -/
def livingOn (floor : Int) : List (String × Value) :=
  [("home", .record addressClass [("floor", .integer floor)])]

end History

end FieldRules
