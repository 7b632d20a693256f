/-
  FieldRules/Proofs/Arguments/Trimming.lean
  =========================================
  **Trimming argument text loses no arguments, and lets nothing more be read.**

  The arguments of an invocation are read from its trimmed body.  Blanks are
  separators: at the start the reader skips them, and at the end they close the
  last token, as the end of the text would have done.  The second half is the
  one with an argument in it, since blanks inside a string are part of it: a
  reader that is in a string before the blanks is still in it after them
  (`outcome_nil_of_step`).  A reader that may end where the text ends is in no
  string, and so may go on over separators (`outcome_separators_of_nil`).
-/
import FieldRules.Proofs.Arguments.Reading

namespace FieldRules.Arguments

open FieldRules.Text

def separatorsOf (blanks : Blanks) : Separators :=
  ⟨blanks.chars, fun c member => by simp [isSeparator, blanks.all c member]⟩

namespace Progress

variable {progress next : Progress} {arguments : Arguments} {offset : Nat}

/-- A reader that may end after a separator may end before it, with the same
    arguments. -/
theorem outcome_nil_of_step {c : Char} {place : Nat} (step : Step progress offset c next)
    (separates : isSeparator c = true) (accepted : next.outcome place [] = .ok arguments) :
    progress.outcome offset [] = .ok arguments := by
  obtain ⟨notDigit, notUpper⟩ := begins_no_word_of_isSeparator separates
  have notQuote := (free_of_isSeparator separates).2
  rw [outcome_nil] at accepted ⊢
  cases step with
  | skip mode _ => simpa [finish, mode] using accepted
  | beginInteger mode digit => exact absurd digit (by simp [notDigit])
  | beginSymbol mode upper => exact absurd upper (by simp [notUpper])
  | beginString mode => exact absurd rfl notQuote
  | moreInteger mode digit => exact absurd digit (by simp [notDigit])
  | closeInteger mode _ => simpa [finish, mode] using accepted
  | moreSymbol mode continues =>
    exact absurd separates (by simp [isSeparator_of_isSymbolChar continues])
  | closeSymbol mode _ => simpa [finish, mode] using accepted
  -- in the remaining modes the reader is in a string afterwards, and may not end
  | moreString mode free printable => simp [finish] at accepted
  | beginEscape mode => simp [finish] at accepted
  | closeString mode => exact absurd rfl notQuote
  | endEscape mode printable => simp [finish] at accepted

theorem outcome_nil_of_separators (gap : Separators)
    (accepted : progress.outcome offset gap.chars = .ok arguments) :
    progress.outcome offset [] = .ok arguments := by
  obtain ⟨chars, all⟩ := gap
  induction chars generalizing progress offset with
  | nil => exact accepted
  | cons c rest ih =>
    obtain ⟨next, step, acceptedRest⟩ := outcome_cons_eq_ok_iff.mp accepted
    have ends := ih (fun d member => all d (.tail c member)) acceptedRest
    exact outcome_nil_of_step step (all c List.mem_cons_self) ends

/-- Separators at the end of a text can be left out. -/
theorem outcome_of_append_separators {text : List Char} (gap : Separators)
    (accepted : progress.outcome offset (text ++ gap.chars) = .ok arguments) :
    progress.outcome offset text = .ok arguments := by
  induction text generalizing progress offset with
  | nil => exact outcome_nil_of_separators gap accepted
  | cons c rest ih =>
    obtain ⟨next, step, acceptedRest⟩ := outcome_cons_eq_ok_iff.mp accepted
    exact outcome_cons_eq_ok_iff.mpr ⟨next, step, ih acceptedRest⟩

theorem outcome_separators_append (mode : progress.mode = .between) (gap : Separators)
    (text : List Char) :
    progress.outcome offset (gap.chars ++ text) =
      progress.outcome (offset + gap.chars.length) text := by
  obtain ⟨chars, all⟩ := gap
  induction chars generalizing offset with
  | nil => rfl
  | cons c rest ih =>
    have skips : progress.feed c offset = .ok progress :=
      feed_eq_ok_iff.mpr (.skip mode (all c List.mem_cons_self))
    rw [List.cons_append, outcome_cons_of_ok skips, List.length_cons, Nat.add_comm rest.length,
      ← Nat.add_assoc]
    exact ih fun d member => all d (.tail c member)

/-- A reader that may end takes a separator, with nothing in progress behind it. -/
theorem exists_step_of_outcome_nil {c : Char} (separates : isSeparator c = true)
    (accepted : progress.outcome offset [] = .ok arguments) :
    ∃ next, Step progress offset c next ∧ next.mode = .between ∧ next.found = arguments := by
  rw [outcome_nil] at accepted
  cases mode : progress.mode with
  | between =>
    refine ⟨progress, .skip mode separates, mode, ?_⟩
    simpa [finish, mode] using accepted
  | integer =>
    refine ⟨_, .closeInteger mode separates, rfl, ?_⟩
    simpa [finish, mode] using accepted
  | symbol =>
    refine ⟨_, .closeSymbol mode separates, rfl, ?_⟩
    simpa [finish, mode] using accepted
  | quoted => simp [finish, mode] at accepted
  | escaped => simp [finish, mode] at accepted

theorem outcome_separators_of_nil (gap : Separators)
    (accepted : progress.outcome offset [] = .ok arguments) :
    progress.outcome offset gap.chars = .ok arguments := by
  rcases gap.eq_empty_or_eq_cons with rfl | ⟨c, separates, more, rfl⟩
  · exact accepted
  · obtain ⟨next, step, between, rfl⟩ := exists_step_of_outcome_nil separates accepted
    have skipped : next.outcome (offset + 1) (more.chars ++ []) =
        next.outcome (offset + 1 + more.chars.length) [] :=
      outcome_separators_append between more []
    rw [List.append_nil, outcome_nil] at skipped
    rw [Run.chars_cons, outcome_cons_of_ok (feed_eq_ok_iff.mpr step), skipped]
    simp [finish, between]

theorem outcome_append_separators {text : List Char} (gap : Separators)
    (accepted : progress.outcome offset text = .ok arguments) :
    progress.outcome offset (text ++ gap.chars) = .ok arguments := by
  induction text generalizing progress offset with
  | nil => exact outcome_separators_of_nil gap accepted
  | cons c rest ih =>
    obtain ⟨next, step, acceptedRest⟩ := outcome_cons_eq_ok_iff.mp accepted
    exact outcome_cons_eq_ok_iff.mpr ⟨next, step, ih acceptedRest⟩

/-- What a text completes does not depend on the offset it stands at. -/
theorem outcome_initial_eq_ok_iff {place : Nat} {text : List Char} :
    Progress.outcome {} offset text = .ok arguments ↔
      Progress.outcome {} place text = .ok arguments := by
  rw [outcome_eq_ok_iff tidy_initial, outcome_eq_ok_iff tidy_initial]

end Progress

/-- **Blanks around a text make no difference to what is read.** -/
theorem parse_blanks_eq_ok_iff (before after : Blanks) {text : List Char} {arguments : Arguments} :
    parse (String.ofList (before.chars ++ (text ++ after.chars))) = .ok arguments ↔
      parse (String.ofList text) = .ok arguments := by
  simp only [parse_eq_ok_iff_outcome, String.toList_ofList]
  have skipped : Progress.outcome {} 0 (before.chars ++ (text ++ after.chars)) =
      Progress.outcome {} (0 + before.chars.length) (text ++ after.chars) :=
    Progress.outcome_separators_append rfl (separatorsOf before) _
  rw [skipped]
  constructor
  · intro accepted
    have shortened := Progress.outcome_of_append_separators (separatorsOf after) accepted
    exact Progress.outcome_initial_eq_ok_iff.mp shortened
  · intro accepted
    have moved : Progress.outcome {} (0 + before.chars.length) text = .ok arguments :=
      Progress.outcome_initial_eq_ok_iff.mp accepted
    exact Progress.outcome_append_separators (separatorsOf after) moved

/-- **What is written in a text is read from the trimmed text**, and nothing more. -/
theorem parse_trim_eq_ok_iff {text : List Char} {arguments : Arguments} :
    parse (String.ofList (trim text)) = .ok arguments ↔
      parse (String.ofList text) = .ok arguments := by
  obtain ⟨before, after, same⟩ := exists_blanks_trim text
  have surrounded : parse (String.ofList (before.chars ++ (trim text ++ after.chars))) =
      .ok arguments ↔ parse (String.ofList (trim text)) = .ok arguments :=
    parse_blanks_eq_ok_iff before after
  rw [← same] at surrounded
  exact surrounded.symm

end FieldRules.Arguments
