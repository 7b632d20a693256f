/-
  FieldRules/Proofs/Session/Program.lean
  ======================================
  **Programs that work with a default engine, and what blocks bring back.**

  A program is what an application does with engines: it creates them, makes
  one of them the default, or none, asks the default or one that it has in its
  hands to do something, and opens blocks in which an engine is the default.
  What fails ends the program up to the next place that catches failures; a
  block is left in any case.

  A block finds on top of the defaults to come back to what it put there, since
  a program leaves these as they are, whatever it does inside
  (`nests_run`, by induction on the program).  So every block, at any depth,
  brings back the default that it found.
-/
import FieldRules.Session
import FieldRules.Proofs.Engine.History

namespace FieldRules

/-! ### Programs -/

inductive Program where
  | skip
  /-- Fails, for a reason that has nothing to do with engines. -/
  | raise
  | sequence (first second : Program)
  /-- Goes on with the handler where the body fails. -/
  | attempt (body handler : Program)
  | create (builtins : Bool)
  | lookUp
  | setDefault (engine : Option Nat)
  /-- Asks an engine for an operation: the default one, if no engine is named. -/
  | operate (target : Option Nat) (operation : Operation)
  /-- Validates, and fails where the record does not pass. -/
  | check (target : Option Nat) (value : Value)
  /-- A block in which an engine is the default: a new one, if none is named. -/
  | within (engine : Option Nat) (body : Program)

/-- Whether an operation failed instead of giving something back. -/
def Answer.raises : Answer → Bool
  | .noted (.error _) | .loaded _ (.error _) | .registered (.error _) | .compiled (.error _)
  | .judged (.error _) => true
  | .judged (.ok outcome) =>
    match outcome.verdict with
    | .error _ => true
    | .ok _ => false
  | .noted (.ok _) | .loaded _ (.ok _) | .registered (.ok _) | .compiled (.ok _) => false

/-- Whether a check fails that goes by the answer. -/
def Answer.refuses : Answer → Bool
  | .judged (.ok outcome) => outcome.verdict.error?.isSome
  | answer => answer.raises

/-! ### Runs -/

/-- An operation that a program asked for: the session before it, the engine
    that was named, the number of the one that answered, and the session after. -/
structure Event where
  before : Session
  target : Option Nat
  number : Nat
  operation : Operation
  answer : Answer
  after : Session

/-- A block that ended: the session in which it was opened, and that in which it
    was left. -/
structure Block where
  opened : Session
  left : Session

/-- What comes of a program: the session in the end, the operations in order,
    the blocks in the order in which they ended, and whether it failed. -/
structure Run where
  session : Session
  events : List Event := []
  blocks : List Block := []
  raised : Bool := false

def Run.followedBy (first second : Run) : Run where
  session := second.session
  events := first.events ++ second.events
  blocks := first.blocks ++ second.blocks
  raised := second.raised

namespace Session

/-- The engine that is meant, and its number: an engine that is named has to be
    there, and the default is created if there is none. -/
def resolve (session : Session) : Option Nat → Option (Session × Nat)
  | none => some session.requireDefault
  | some number => if number < session.engines.length then some (session, number) else none

def active (session : Session) : Option Nat → Option (Session × Nat)
  | none => some (session.add (Engine.create true).1)
  | some number => if number < session.engines.length then some (session, number) else none

def call (session : Session) (target : Option Nat) (operation : Operation)
    (fails : Answer → Bool) : Run :=
  match session.resolve target with
  | none => { session := session, raised := true }
  | some (ready, number) =>
    let answer := (ready.engine number).answer operation
    let after := ready.setEngine number ((ready.engine number).perform operation)
    { session := after
      events := [⟨session, target, number, operation, answer, after⟩]
      raised := fails answer }

def run (session : Session) : Program → Run
  | .skip => { session := session }
  | .raise => { session := session, raised := true }
  | .sequence first second =>
    let done := session.run first
    if done.raised then done else done.followedBy (done.session.run second)
  | .attempt body handler =>
    let done := session.run body
    if done.raised then done.followedBy (done.session.run handler) else done
  | .create builtins => { session := (session.add (Engine.create builtins).1).1 }
  | .lookUp => { session := session.requireDefault.1 }
  | .setDefault none => { session := session.setDefault none }
  | .setDefault (some number) =>
    if number < session.engines.length then { session := session.setDefault (some number) }
    else { session := session, raised := true }
  | .operate target operation => session.call target operation Answer.raises
  | .check target value => session.call target (.validate value) Answer.refuses
  | .within engine body =>
    match session.active engine with
    | none => { session := session, raised := true }
    | some (ready, number) =>
      let done := (ready.enter number).run body
      { session := done.session.leave
        events := done.events
        blocks := done.blocks ++ [⟨session, done.session.leave⟩]
        raised := done.raised }

end Session

/-! ### What blocks bring back -/

/-- The run leaves the defaults to come back to as they were, and each of its
    blocks brought back the default that it found. -/
structure Run.Nests (run : Run) (before : Session) : Prop where
  entered : run.session.entered = before.entered
  restores : ∀ block ∈ run.blocks, block.left.default = block.opened.default

namespace Session

variable {session : Session}

theorem entered_requireDefault (session : Session) :
    session.requireDefault.1.entered = session.entered := by
  unfold requireDefault
  split <;> rfl

theorem entered_resolve {target : Option Nat} {ready : Session} {number : Nat}
    (resolved : session.resolve target = some (ready, number)) :
    ready.entered = session.entered := by
  cases target with
  | none =>
    have same : session.requireDefault = (ready, number) := Option.some.inj resolved
    rw [← session.entered_requireDefault, same]
  | some number =>
    rw [resolve] at resolved
    split at resolved
    · cases resolved
      rfl
    · cases resolved

theorem active_eq_some {engine : Option Nat} {ready : Session} {number : Nat}
    (active : session.active engine = some (ready, number)) :
    ready.default = session.default ∧ ready.entered = session.entered := by
  cases engine with
  | none =>
    cases active
    exact ⟨rfl, rfl⟩
  | some number =>
    rw [Session.active] at active
    split at active
    · cases active
      exact ⟨rfl, rfl⟩
    · cases active

theorem leave_of_entered_eq {previous : Option Nat} {rest : List (Option Nat)}
    (entered : session.entered = previous :: rest) :
    session.leave.default = previous ∧ session.leave.entered = rest := by
  simp [leave, entered]

end Session

namespace Run.Nests

variable {before : Session}

theorem of_entered_eq {run : Run} (entered : run.session.entered = before.entered)
    (noBlock : run.blocks = []) : run.Nests before :=
  ⟨entered, by simp [noBlock]⟩

theorem followedBy {first second : Run} (one : first.Nests before)
    (two : second.Nests first.session) : (first.followedBy second).Nests before := by
  constructor
  · exact two.entered.trans one.entered
  · intro block member
    rcases List.mem_append.mp member with earlier | later
    · exact one.restores block earlier
    · exact two.restores block later

theorem call (session : Session) (target : Option Nat) (operation : Operation)
    (fails : Answer → Bool) : (session.call target operation fails).Nests session := by
  unfold Session.call
  split
  · exact of_entered_eq rfl rfl
  · next ready number resolved =>
    have entered : ready.entered = session.entered := Session.entered_resolve resolved
    exact of_entered_eq entered rfl

end Run.Nests

/-- **Blocks nest**, in every program and whatever fails in it. -/
theorem Session.nests_run (session : Session) (program : Program) :
    (session.run program).Nests session := by
  induction program generalizing session with
  | skip => exact .of_entered_eq rfl rfl
  | raise => exact .of_entered_eq rfl rfl
  | sequence first second one two =>
    rw [run]
    split
    · exact one session
    · exact (one session).followedBy (two _)
  | attempt body handler one two =>
    rw [run]
    split
    · exact (one session).followedBy (two _)
    · exact one session
  | create builtins => exact .of_entered_eq rfl rfl
  | lookUp => exact .of_entered_eq session.entered_requireDefault rfl
  | setDefault engine =>
    cases engine with
    | none => exact .of_entered_eq rfl rfl
    | some number =>
      rw [run]
      split <;> exact .of_entered_eq rfl rfl
  | operate target operation => exact .call session target operation _
  | check target value => exact .call session target _ _
  | within engine body inside =>
    rw [run]
    split
    · exact .of_entered_eq rfl rfl
    · next ready number active =>
      obtain ⟨sameDefault, sameEntered⟩ := active_eq_some active
      have nests := inside (ready.enter number)
      obtain ⟨default, entered⟩ := leave_of_entered_eq nests.entered
      rw [sameDefault] at default
      rw [sameEntered] at entered
      refine ⟨entered, fun block member => ?_⟩
      rcases List.mem_append.mp member with inner | outer
      · exact nests.restores block inner
      · rw [List.mem_singleton.mp outer]
        exact default

end FieldRules
