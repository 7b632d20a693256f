/-
  FieldRules/Session.lean
  =======================
  **Several engines, one of which is the default.**

  Engines are known by the order in which they were created.  At any moment one
  of them, or none yet, is the default; when it is asked for and there is none,
  it is created.  A default can be set for a while: leaving brings back what
  was there on entering, even if that was no default at all.
-/
import FieldRules.Engine.Operations

namespace FieldRules

/-- Engines, the default one, and the defaults to come back to, innermost first. -/
structure Session where
  engines : List Engine := []
  default : Option Nat := none
  entered : List (Option Nat) := []

namespace Session

def add (session : Session) (engine : Engine) : Session × Nat :=
  ({ session with engines := session.engines ++ [engine] }, session.engines.length)

/-- The engine of a number; numbers that are not given out stand for an empty engine. -/
def engine (session : Session) (number : Nat) : Engine := session.engines.getD number {}

def setEngine (session : Session) (number : Nat) (engine : Engine) : Session :=
  { session with engines := session.engines.set number engine }

/-- The number of the default engine, which is created with the built-in rules
    if there is none. -/
def requireDefault (session : Session) : Session × Nat :=
  match session.default with
  | some number => (session, number)
  | none =>
    let (extended, number) := session.add (Engine.create true).1
    ({ extended with default := some number }, number)

def setDefault (session : Session) (number : Option Nat) : Session :=
  { session with default := number }

def enter (session : Session) (number : Nat) : Session :=
  { session with default := some number, entered := session.default :: session.entered }

def leave (session : Session) : Session :=
  match session.entered with
  | [] => session
  | previous :: rest => { session with default := previous, entered := rest }

end Session

end FieldRules
