/-
  FieldRules/Proofs/Session/Isolation.lean
  ========================================
  **Operations reach the default engine, and no other.**

  An operation that names no engine goes to the one that is the default at that
  moment, or to a new one if there is none.  That it concerns this engine only
  is said twice.  Of the single operation: its answer and its effect are those
  of the engine, and all other engines are as they were (`Event.Local`).  Of a
  whole program: each engine ends as its own operations leave it, and they were
  answered as if there were no other engine (`Accounted`).  The second statement
  is the one that says that nothing else in a program touches an engine, and is
  what follows from running one part after the other (`Accounted.trans`).
-/
import FieldRules.Proofs.Session.Program

namespace FieldRules

/-! ### Sessions whose engines are there -/

namespace Session

/-- The default, and all defaults to come back to, are engines of the session. -/
structure Sound (session : Session) : Prop where
  default : ∀ number, session.default = some number → number < session.engines.length
  entered : ∀ number, some number ∈ session.entered → number < session.engines.length

theorem sound_initial : Sound {} :=
  ⟨fun _ same => (nomatch same), fun _ member => absurd member List.not_mem_nil⟩

variable {session : Session} {number other : Nat} {engine : Engine}

theorem engine_add_self : (session.add engine).1.engine session.engines.length = engine := by
  simp [add, Session.engine, List.getD_eq_getElem?_getD]

theorem engine_add_of_ne (different : number ≠ session.engines.length) :
    (session.add engine).1.engine number = session.engine number := by
  simp only [add, Session.engine, List.getD_eq_getElem?_getD]
  rcases Nat.lt_or_gt_of_ne different with known | beyond
  · rw [List.getElem?_append_left known]
  · have beyondBoth : (session.engines ++ [engine]).length ≤ number := by
      rw [List.length_append, List.length_singleton]
      exact beyond
    rw [List.getElem?_eq_none beyondBoth, List.getElem?_eq_none (Nat.le_of_lt beyond)]

theorem engine_setEngine_self (known : number < session.engines.length) :
    (session.setEngine number engine).engine number = engine := by
  simp [setEngine, Session.engine, List.getD_eq_getElem?_getD, known]

theorem engine_setEngine_of_ne (different : other ≠ number) :
    (session.setEngine number engine).engine other = session.engine other := by
  simp only [setEngine, Session.engine, List.getD_eq_getElem?_getD]
  rw [List.getElem?_set_ne different.symm]

/-- The engine that is meant, and its number: the default one if none is named,
    and a new one if there is no default. -/
def aim (session : Session) : Option Nat → Nat × Engine
  | some number => (number, session.engine number)
  | none =>
    match session.default with
    | some number => (number, session.engine number)
    | none => (session.engines.length, (Engine.create true).1)

end Session

/-! ### A single operation -/

/-- An operation goes to the engine that is meant.  It is answered by this
    engine, changes it, and leaves all other engines as they are; if no engine
    was named, this one is the default afterwards. -/
structure Event.Local (event : Event) : Prop where
  number : event.number = (event.before.aim event.target).1
  answer : event.answer = (event.before.aim event.target).2.answer event.operation
  engine : event.after.engine event.number =
    (event.before.aim event.target).2.perform event.operation
  others : ∀ other, other ≠ event.number → event.after.engine other = event.before.engine other
  default : event.after.default =
    if event.target = none then some event.number else event.before.default

/-! ### A whole program -/

def operationsOf (number : Nat) (events : List Event) : List Operation :=
  (events.filter (·.number == number)).map Event.operation

def answersOf (number : Nat) (events : List Event) : List Answer :=
  (events.filter (·.number == number)).map Event.answer

/-- The engine of a number before anything is done with it: the one of the
    session, or a new one if the number is not given out yet. -/
def Session.Begins (session : Session) (number : Nat) (start : Engine) : Prop :=
  if number < session.engines.length then start = session.engine number
  else ∃ builtins, start = (Engine.create builtins).1

/-- Between two sessions each engine did its own operations, and nothing else
    was done with it. -/
structure Accounted (before : Session) (events : List Event) (after : Session) : Prop where
  sound : after.Sound
  grows : before.engines.length ≤ after.engines.length
  inside : ∀ event ∈ events, event.number < after.engines.length
  engines : ∀ number < after.engines.length, ∃ start,
    before.Begins number start ∧
    after.engine number = start.performAll (operationsOf number events) ∧
    answersOf number events = start.answersTo (operationsOf number events)

theorem Engine.performAll_append (engine : Engine) (first second : List Operation) :
    engine.performAll (first ++ second) = (engine.performAll first).performAll second :=
  List.foldl_append

theorem Engine.answersTo_append (engine : Engine) (first second : List Operation) :
    engine.answersTo (first ++ second) =
      engine.answersTo first ++ (engine.performAll first).answersTo second := by
  induction first generalizing engine with
  | nil => rfl
  | cons operation rest ih =>
    rw [List.cons_append, answersTo, ih, answersTo, List.cons_append]
    rfl

section Events

variable (number : Nat) (first second : List Event)

theorem operationsOf_append :
    operationsOf number (first ++ second) =
      operationsOf number first ++ operationsOf number second := by
  simp [operationsOf]

theorem answersOf_append :
    answersOf number (first ++ second) = answersOf number first ++ answersOf number second := by
  simp [answersOf]

theorem of_number_ne (absent : ∀ event ∈ first, event.number ≠ number) :
    operationsOf number first = [] ∧ answersOf number first = [] := by
  have none : first.filter (·.number == number) = [] :=
    List.filter_eq_nil_iff.mpr fun event member => by simpa using absent event member
  simp [operationsOf, answersOf, none]

end Events

namespace Accounted

variable {before middle after : Session}

/-- **One part of a program after the other.** -/
theorem trans {first second : List Event} (one : Accounted before first middle)
    (two : Accounted middle second after) : Accounted before (first ++ second) after := by
  refine ⟨two.sound, Nat.le_trans one.grows two.grows, ?_, ?_⟩
  · intro event member
    rcases List.mem_append.mp member with earlier | later
    · exact Nat.lt_of_lt_of_le (one.inside event earlier) two.grows
    · exact two.inside event later
  · intro number known
    obtain ⟨halfway, begins, performed, answered⟩ := two.engines number known
    rw [operationsOf_append, answersOf_append]
    by_cases old : number < middle.engines.length
    · obtain ⟨start, beginning, done, told⟩ := one.engines number old
      rw [Session.Begins, if_pos old] at begins
      subst begins
      refine ⟨start, beginning, ?_, ?_⟩
      · rw [Engine.performAll_append, ← done, performed]
      · rw [Engine.answersTo_append, ← done, told, answered]
    · -- an engine of the second part: the first one did nothing with it
      obtain ⟨noOperation, noAnswer⟩ := of_number_ne number first fun event member same =>
        old (same ▸ one.inside event member)
      rw [Session.Begins, if_neg old] at begins
      have notBefore : ¬ number < before.engines.length :=
        fun known => old (Nat.lt_of_lt_of_le known one.grows)
      refine ⟨halfway, ?_, ?_, ?_⟩
      · rwa [Session.Begins, if_neg notBefore]
      · rw [noOperation, List.nil_append, performed]
      · rw [noOperation, noAnswer, List.nil_append, List.nil_append, answered]

theorem of_engines_eq (same : after.engines = before.engines) (sound : after.Sound) :
    Accounted before [] after := by
  refine ⟨sound, Nat.le_of_eq (congrArg List.length same.symm),
    fun _ member => absurd member List.not_mem_nil, ?_⟩
  intro number known
  refine ⟨after.engine number, ?_, rfl, rfl⟩
  rw [same] at known
  rw [Session.Begins, if_pos known]
  simp only [Session.engine, same]

theorem refl (sound : before.Sound) : Accounted before [] before :=
  of_engines_eq rfl sound

theorem add (sound : before.Sound) (builtins : Bool) :
    Accounted before [] (before.add (Engine.create builtins).1).1 := by
  have length : (before.add (Engine.create builtins).1).1.engines.length =
      before.engines.length + 1 := by simp [Session.add]
  refine ⟨⟨?_, ?_⟩, by omega, fun _ member => absurd member List.not_mem_nil, ?_⟩
  · intro number default
    have known := sound.default number default
    omega
  · intro number member
    have known := sound.entered number member
    omega
  · intro number known
    by_cases old : number < before.engines.length
    · refine ⟨before.engine number, ?_, ?_, rfl⟩
      · rw [Session.Begins, if_pos old]
      · exact Session.engine_add_of_ne (Nat.ne_of_lt old)
    · obtain rfl : number = before.engines.length := by omega
      refine ⟨(Engine.create builtins).1, ?_, Session.engine_add_self, rfl⟩
      rw [Session.Begins, if_neg old]
      exact ⟨builtins, rfl⟩

theorem requireDefault (sound : before.Sound) : Accounted before [] before.requireDefault.1 := by
  unfold Session.requireDefault
  split
  · exact refl sound
  · have added := add sound true
    refine ⟨⟨?_, added.sound.entered⟩, added.grows, added.inside, added.engines⟩
    intro number same
    obtain rfl := Option.some.inj same
    simp [Session.add]

end Accounted

namespace Session

variable {session ready : Session} {target : Option Nat} {number : Nat}

theorem aim_of_resolve (sound : session.Sound)
    (resolved : session.resolve target = some (ready, number)) :
    session.aim target = (number, ready.engine number) ∧ number < ready.engines.length ∧
      (∀ other, other ≠ number → ready.engine other = session.engine other) ∧
      ready.default = if target = none then some number else session.default := by
  cases target with
  | some named =>
    rw [resolve] at resolved
    split at resolved
    · next known =>
      cases resolved
      exact ⟨rfl, known, fun _ _ => rfl, rfl⟩
    · cases resolved
  | none =>
    have required : session.requireDefault = (ready, number) := Option.some.inj resolved
    unfold requireDefault at required
    split at required
    · next default =>
      cases required
      exact ⟨by simp only [aim, default], sound.default _ default, fun _ _ => rfl, default⟩
    · next default =>
      cases required
      refine ⟨?_, by simp, fun other different => engine_add_of_ne different, rfl⟩
      simp only [aim, default]
      exact congrArg _ engine_add_self.symm

theorem accounted_resolve (sound : session.Sound)
    (resolved : session.resolve target = some (ready, number)) : Accounted session [] ready := by
  cases target with
  | some named =>
    rw [resolve] at resolved
    split at resolved
    · cases resolved
      exact .refl sound
    · cases resolved
  | none =>
    have required : session.requireDefault = (ready, number) := Option.some.inj resolved
    have accounted := Accounted.requireDefault sound
    rwa [required] at accounted

theorem accounted_active (sound : session.Sound)
    (active : session.active target = some (ready, number)) :
    Accounted session [] ready ∧ number < ready.engines.length := by
  cases target with
  | some named =>
    rw [Session.active] at active
    split at active
    · next known =>
      cases active
      exact ⟨.refl sound, known⟩
    · cases active
  | none =>
    cases active
    exact ⟨.add sound true, by simp⟩

theorem sound_enter (sound : session.Sound) (known : number < session.engines.length) :
    (session.enter number).Sound := by
  constructor
  · intro other same
    obtain rfl := Option.some.inj same
    exact known
  · intro other member
    rcases List.mem_cons.mp member with default | before
    · exact sound.default other default.symm
    · exact sound.entered other before

theorem sound_leave (sound : session.Sound) : session.leave.Sound := by
  unfold leave
  split
  · exact sound
  · next previous rest entered =>
    constructor
    · intro number default
      refine sound.entered number ?_
      rw [entered, ← default]
      exact List.mem_cons_self
    · intro number member
      refine sound.entered number ?_
      rw [entered]
      exact List.mem_cons_of_mem _ member

theorem engines_leave (session : Session) : session.leave.engines = session.engines := by
  unfold leave
  split <;> rfl

end Session

theorem Accounted.perform {ready : Session} {event : Event} (sound : ready.Sound)
    (known : event.number < ready.engines.length)
    (answer : event.answer = (ready.engine event.number).answer event.operation) :
    Accounted ready [event] (ready.setEngine event.number
      ((ready.engine event.number).perform event.operation)) := by
  have length : (ready.setEngine event.number
      ((ready.engine event.number).perform event.operation)).engines.length =
        ready.engines.length := List.length_set
  refine ⟨⟨?_, ?_⟩, Nat.le_of_eq length.symm, ?_, ?_⟩
  · intro number default
    rw [length]
    exact sound.default number default
  · intro number member
    rw [length]
    exact sound.entered number member
  · intro other member
    rw [length, List.mem_singleton.mp member]
    exact known
  · intro number inRange
    rw [length] at inRange
    refine ⟨ready.engine number, by rw [Session.Begins, if_pos inRange], ?_⟩
    by_cases mine : number = event.number
    · subst mine
      rw [Session.engine_setEngine_self known]
      simp [operationsOf, answersOf, answer, Engine.performAll, Engine.answersTo]
    · rw [Session.engine_setEngine_of_ne mine]
      obtain ⟨noOperation, noAnswer⟩ := of_number_ne number [event] (by simpa using Ne.symm mine)
      rw [noOperation, noAnswer]
      exact ⟨rfl, rfl⟩

/-! ### Programs -/

/-- The operations of a run are local, and account for what becomes of the engines. -/
structure Run.Isolates (run : Run) (before : Session) : Prop where
  events : ∀ event ∈ run.events, event.Local
  accounted : Accounted before run.events run.session

namespace Run.Isolates

variable {before : Session}

theorem quiet {run : Run} (accounted : Accounted before [] run.session) (none : run.events = []) :
    run.Isolates before :=
  ⟨by simp [none], by rwa [none]⟩

theorem followedBy {first second : Run} (one : first.Isolates before)
    (two : second.Isolates first.session) : (first.followedBy second).Isolates before := by
  refine ⟨?_, one.accounted.trans two.accounted⟩
  intro event member
  rcases List.mem_append.mp member with earlier | later
  · exact one.events event earlier
  · exact two.events event later

theorem call (sound : before.Sound) (target : Option Nat) (operation : Operation)
    (fails : Answer → Bool) : (before.call target operation fails).Isolates before := by
  unfold Session.call
  split
  · exact quiet (.refl sound) rfl
  · next ready number resolved =>
    obtain ⟨aimed, known, others, default⟩ := Session.aim_of_resolve sound resolved
    have accounted := Session.accounted_resolve sound resolved
    constructor
    · intro event member
      rw [List.mem_singleton.mp member]
      refine ⟨by rw [aimed], by rw [aimed], ?_, ?_, default⟩
      · rw [aimed]
        exact Session.engine_setEngine_self known
      · intro other different
        rw [← others other different]
        exact Session.engine_setEngine_of_ne different
    · exact accounted.trans (.perform accounted.sound known rfl)

end Run.Isolates

/-- **Programs isolate engines**, whatever fails in them. -/
theorem Session.isolates_run {session : Session} (sound : session.Sound) (program : Program) :
    (session.run program).Isolates session := by
  induction program generalizing session with
  | skip => exact .quiet (.refl sound) rfl
  | raise => exact .quiet (.refl sound) rfl
  | sequence first second one two =>
    rw [run]
    split
    · exact one sound
    · exact (one sound).followedBy (two (one sound).accounted.sound)
  | attempt body handler one two =>
    rw [run]
    split
    · exact (one sound).followedBy (two (one sound).accounted.sound)
    · exact one sound
  | create builtins => exact .quiet (.add sound builtins) rfl
  | lookUp => exact .quiet (.requireDefault sound) rfl
  | setDefault engine =>
    cases engine with
    | none =>
      have still : (session.setDefault none).Sound := by
        refine ⟨fun other same => ?_, sound.entered⟩
        cases same
      exact .quiet (.of_engines_eq rfl still) rfl
    | some number =>
      rw [run]
      split
      · next known =>
        have still : (session.setDefault (some number)).Sound := by
          refine ⟨fun other same => ?_, sound.entered⟩
          obtain rfl := Option.some.inj same
          exact known
        exact .quiet (.of_engines_eq rfl still) rfl
      · exact .quiet (.refl sound) rfl
  | operate target operation => exact .call sound target operation _
  | check target value => exact .call sound target _ _
  | within engine body inside =>
    rw [run]
    split
    · exact .quiet (.refl sound) rfl
    · next ready number active =>
      obtain ⟨opened, known⟩ := accounted_active sound active
      have sound' := sound_enter opened.sound known
      have enters : Accounted ready [] (ready.enter number) := .of_engines_eq rfl sound'
      have isolates := inside sound'
      have leaves := Accounted.of_engines_eq (engines_leave ((ready.enter number).run body).session)
        (sound_leave isolates.accounted.sound)
      refine ⟨isolates.events, ?_⟩
      simpa using ((opened.trans enters).trans isolates.accounted).trans leaves

theorem Session.default_run_within (session : Session) (engine : Option Nat) (body : Program) :
    (session.run (.within engine body)).session.default = session.default := by
  have restores := (session.nests_run (.within engine body)).restores
  rw [run] at restores ⊢
  split at restores
  · rfl
  · exact restores _ (List.mem_append_right _ List.mem_cons_self)

/-- **Blocks nest and isolate.**  In a session whose engines are there, for every
    program: if it is a block, the default afterwards is what it was before, if
    only that there was none, and so it is for every block that ends inside, at
    any depth, in which engines are made the default or dropped, and also where
    something fails.  Every operation that names no engine goes to the default of
    that moment, reads and changes it alone and leaves every other engine as it
    is.  And altogether each engine ends as the operations that it answered leave
    it, which it answered as it would on its own. -/
theorem blocks_nest_and_isolate {session : Session} (sound : session.Sound) (program : Program) :
    (∀ engine body, program = .within engine body →
      (session.run program).session.default = session.default) ∧
    (∀ block ∈ (session.run program).blocks, block.left.default = block.opened.default) ∧
    (∀ event ∈ (session.run program).events, event.Local) ∧
    Accounted session (session.run program).events (session.run program).session := by
  refine ⟨?_, (session.nests_run program).restores, (Session.isolates_run sound program).events,
    (Session.isolates_run sound program).accounted⟩
  rintro engine body rfl
  exact session.default_run_within engine body

/-- A block with a new engine, which drops the default, opens a block with the
    same engine, and fails on an engine that is created on the way. -/
def droppingProgram : Program :=
  .within none (.sequence (.operate none (.registerInteger (.text "LOW") (.integer 1)))
    (.sequence (.setDefault none)
      (.sequence (.within (some 0) (.operate none (.registerString (.text "CODE") (.text "ab"))))
        (.operate none (.registerInteger (.text "no name") (.integer 2))))))

theorem blocks_nest_and_isolate_of_dropping :
    ({} : Session).Sound ∧ (({} : Session).run droppingProgram).raised = true ∧
      (({} : Session).run droppingProgram).events.map (·.number) = [0, 0, 1] ∧
      (({} : Session).run droppingProgram).session.default = none ∧
      (({} : Session).run droppingProgram).blocks.map (·.left.default) = [none, none] := by
  obtain ⟨restored, -, -, -⟩ := blocks_nest_and_isolate Session.sound_initial droppingProgram
  refine ⟨Session.sound_initial, ?_, ?_, restored none _ rfl, ?_⟩
  · rfl
  · rfl
  · rfl

end FieldRules
