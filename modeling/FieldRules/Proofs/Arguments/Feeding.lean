/-
  FieldRules/Proofs/Arguments/Feeding.lean
  ========================================
  **How far the reader comes, and where it stops.**

  `feedAll` feeds a stretch of text to the reader and says in which state that
  leaves it, if it takes all characters of the stretch.  A reader that stops
  with a fault does so in one of two ways (`outcome_eq_error_cases`): it took
  all characters before some character and refuses that one, or it took the
  whole text and stands inside a string at the end.  Only the second way is an
  unterminated string.
-/
import FieldRules.Proofs.Arguments.Reading

namespace FieldRules.Arguments

/-- Whether a reader in the mode stands inside a string: in a string, or after
    a backslash in one. -/
def Mode.inString : Mode → Bool
  | .quoted | .escaped => true
  | .between | .integer | .symbol => false

namespace Progress

def feedAll (progress : Progress) (offset : Nat) : List Char → Except SyntaxProblem Progress
  | [] => .ok progress
  | c :: rest =>
    match progress.feed c offset with
    | .ok next => next.feedAll (offset + 1) rest
    | .error problem => .error problem

theorem feedAll_cons_eq_ok_iff {progress last : Progress} {c : Char} {rest : List Char}
    {offset : Nat} :
    progress.feedAll offset (c :: rest) = .ok last ↔
      ∃ next, Step progress offset c next ∧ next.feedAll (offset + 1) rest = .ok last := by
  rw [feedAll]
  constructor
  · intro taken
    split at taken
    · next next fed => exact ⟨next, feed_eq_ok_iff.mp fed, taken⟩
    · cases taken
  · rintro ⟨next, step, taken⟩
    rw [feed_eq_ok_iff.mpr step]
    exact taken

theorem feedAll_append_eq_ok_iff {progress last : Progress} {first second : List Char}
    {offset : Nat} :
    progress.feedAll offset (first ++ second) = .ok last ↔
      ∃ middle, progress.feedAll offset first = .ok middle ∧
        middle.feedAll (offset + first.length) second = .ok last := by
  induction first generalizing progress offset with
  | nil => simp [feedAll]
  | cons c rest ih =>
    rw [List.cons_append, feedAll_cons_eq_ok_iff, List.length_cons, Nat.add_comm rest.length,
      ← Nat.add_assoc]
    constructor
    · rintro ⟨next, step, taken⟩
      obtain ⟨middle, takenRest, takenSecond⟩ := ih.mp taken
      exact ⟨middle, feedAll_cons_eq_ok_iff.mpr ⟨next, step, takenRest⟩, takenSecond⟩
    · rintro ⟨middle, takenFirst, takenSecond⟩
      obtain ⟨next, step, takenRest⟩ := feedAll_cons_eq_ok_iff.mp takenFirst
      exact ⟨next, step, ih.mpr ⟨middle, takenRest, takenSecond⟩⟩

/-- The reader that stands at an offset takes the characters of a text up to the
    one at a place, and refuses that one. -/
def RefusesAt (progress : Progress) (offset : Nat) (text : List Char) (problem : SyntaxProblem)
    (place : Nat) : Prop :=
  ∃ (before : List Char) (c : Char) (after : List Char) (reached : Progress),
    text = before ++ c :: after ∧ place = offset + before.length ∧
    progress.feedAll offset before = .ok reached ∧ reached.feed c place = .error problem

/-- **A reader that stops refuses a character, or cannot end where the text
    ends.** -/
theorem outcome_eq_error_cases {progress : Progress} {offset place : Nat} {text : List Char}
    {problem : SyntaxProblem} (stopped : progress.outcome offset text = .error (problem, place)) :
    progress.RefusesAt offset text problem place ∨
      ∃ reached, progress.feedAll offset text = .ok reached ∧ reached.finish = .error problem := by
  induction text generalizing progress offset with
  | nil =>
    rw [outcome_nil] at stopped
    split at stopped
    · cases stopped
    · next unfinished =>
      cases stopped
      exact .inr ⟨progress, rfl, unfinished⟩
  | cons c rest ih =>
    cases taken : progress.feed c offset with
    | error refused =>
      rw [outcome_cons_of_error taken] at stopped
      cases stopped
      exact .inl ⟨[], c, rest, progress, rfl, rfl, rfl, taken⟩
    | ok next =>
      rw [outcome_cons_of_ok taken] at stopped
      have step := feed_eq_ok_iff.mp taken
      obtain ⟨before, d, after, reached, rfl, rfl, took, refused⟩ | ⟨reached, took, unfinished⟩ :=
        ih stopped
      · refine .inl ⟨c :: before, d, after, reached, rfl, ?_, ?_, refused⟩
        · rw [List.length_cons]
          omega
        · exact feedAll_cons_eq_ok_iff.mpr ⟨next, step, took⟩
      · exact .inr ⟨reached, feedAll_cons_eq_ok_iff.mpr ⟨next, step, took⟩, unfinished⟩

theorem inString_of_finish_eq_error {progress : Progress} {problem : SyntaxProblem}
    (unfinished : progress.finish = .error problem) : progress.mode.inString = true := by
  cases mode : progress.mode with
  | between => simp [finish, mode] at unfinished
  | integer => simp [finish, mode] at unfinished
  | symbol => simp [finish, mode] at unfinished
  | quoted => rfl
  | escaped => rfl

/-- No character is refused for a string that does not end. -/
theorem feed_ne_unterminatedString (progress : Progress) (c : Char) (offset : Nat) :
    progress.feed c offset ≠ .error .unterminatedString := by
  intro same
  rw [feed] at same
  repeat' split at same
  all_goals cases same

end Progress

/-- A fault in a text is found at a character that the reader refuses, or at the
    end of the text. -/
theorem parse_eq_error_cases {text : String} {fault : SyntaxFault}
    (stopped : parse text = .error fault) :
    Progress.RefusesAt {} 0 text.toList fault.problem fault.offset ∨
      ∃ reached, Progress.feedAll {} 0 text.toList = .ok reached ∧
        reached.finish = .error fault.problem := by
  rw [parse_eq_outcome] at stopped
  cases read : ({} : Progress).outcome 0 text.toList with
  | ok arguments =>
    rw [read] at stopped
    cases stopped
  | error found =>
    rw [read] at stopped
    obtain rfl := Except.error.inj stopped
    exact Progress.outcome_eq_error_cases read

end FieldRules.Arguments
