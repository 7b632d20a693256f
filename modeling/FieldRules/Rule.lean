/-
  FieldRules/Rule.lean
  ====================
  **Rules: invocations with their arguments read.**

  A text is split into all its invocations before the arguments of the first
  one are read, so a fault in the split is reported before any fault in
  argument text.  Faults in argument text count their offset from the start of
  the arguments.
-/
import FieldRules.Arguments.Reader
import FieldRules.Invocation

namespace FieldRules

/-- A rule of a field: its invocation, and the arguments written in it. -/
structure Rule where
  invocation : Invocation
  arguments : Arguments
deriving DecidableEq, Repr

namespace Rule

def name (rule : Rule) : String := rule.invocation.name

def ofInvocation (invocation : Invocation) : Except SyntaxFault Rule :=
  (Arguments.parse invocation.arguments).map fun arguments => ⟨invocation, arguments⟩

/-- The rules of a text, in order; a blank text has none. -/
def parse (text : String) : Except SyntaxFault (List Rule) := do
  let invocations ← Invocation.split text
  invocations.mapM ofInvocation

end Rule

end FieldRules
