/-
  FieldRules/Proofs/Arguments/Viability.lean
  ==========================================
  **A fault in argument text is reported at the earliest possible point.**

  A reader that has taken some characters can always be brought to an accepted
  end: outside of strings it may stop at once, inside a string it needs the
  closing quote (`exists_outcome_closing`).  So a text that the reader takes is
  viable, and a character that it refuses is the first one after which no text is.

  The other fault is a string that does not end.  What the reader remembers as
  the start of its token is then the quote that opened this very string
  (`opened_of_feedAll`, by induction on the text from its end): before it the
  reader stood between two tokens, and after it stand characters of the string
  only.  That they never close it needs no second look at them: they can be
  continued to a quotation, and a quotation ends in one place only.
-/
import FieldRules.Proofs.Arguments.Feeding
import Mathlib.Data.List.Induction

namespace FieldRules.Arguments

open FieldRules.Text

/-! ### Accepted and viable texts -/

def Accepted (text : List Char) : Prop := ∃ arguments, parse (String.ofList text) = .ok arguments

/-- Some continuation of the text is accepted. -/
def Viable (text : List Char) : Prop := ∃ rest, Accepted (text ++ rest)

theorem accepted_iff_outcome {text : List Char} :
    Accepted text ↔ ∃ arguments, ({} : Progress).outcome 0 text = .ok arguments := by
  simp only [Accepted, parse_eq_ok_iff_outcome, String.toList_ofList]

namespace Progress

theorem outcome_append_of_feedAll {progress reached : Progress} {offset : Nat}
    {first : List Char} (taken : progress.feedAll offset first = .ok reached)
    (second : List Char) :
    progress.outcome offset (first ++ second) = reached.outcome (offset + first.length) second := by
  induction first generalizing progress offset with
  | nil =>
    cases taken
    rfl
  | cons c rest ih =>
    obtain ⟨next, step, takenRest⟩ := feedAll_cons_eq_ok_iff.mp taken
    rw [List.cons_append, outcome_cons_of_ok (feed_of_step step), ih takenRest, List.length_cons,
      Nat.add_assoc, Nat.add_comm 1]

end Progress

/-! ### Every progress can be completed -/

/-- What has to follow in the mode before a text may end: in a string a quote,
    which right after a backslash has to be written twice. -/
def Mode.closing : Mode → List Char
  | .between | .integer | .symbol => []
  | .quoted => [quoteMark]
  | .escaped => [quoteMark, quoteMark]

theorem Mode.closing_eq_nil {mode : Mode} (outside : mode.inString = false) : mode.closing = [] := by
  cases mode with
  | between | integer | symbol => rfl
  | quoted | escaped => cases outside

namespace Progress

theorem exists_outcome_closing (progress : Progress) (offset : Nat) :
    ∃ arguments, progress.outcome offset progress.mode.closing = .ok arguments := by
  cases mode : progress.mode with
  | between | integer | symbol =>
    rw [Mode.closing, outcome_nil]
    simp [finish, mode]
  | quoted =>
    have step : Step progress offset quoteMark _ := .closeString mode
    rw [Mode.closing, outcome_cons_of_ok (feed_of_step step), outcome_nil]
    exact ⟨_, rfl⟩
  | escaped =>
    have taken : Step progress offset quoteMark _ := .endEscape mode (by decide)
    have closed : Step { progress with mode := .quoted, pending := quoteMark :: progress.pending }
        (offset + 1) quoteMark _ := .closeString rfl
    rw [Mode.closing, outcome_cons_of_ok (feed_of_step taken),
      outcome_cons_of_ok (feed_of_step closed), outcome_nil]
    exact ⟨_, rfl⟩

theorem accepted_append_closing {text : List Char} {reached : Progress}
    (taken : feedAll {} 0 text = .ok reached) : Accepted (text ++ reached.mode.closing) := by
  rw [accepted_iff_outcome, outcome_append_of_feedAll taken]
  exact reached.exists_outcome_closing _

theorem viable_of_feedAll {text : List Char} {reached : Progress}
    (taken : feedAll {} 0 text = .ok reached) : Viable text :=
  ⟨_, accepted_append_closing taken⟩

theorem accepted_of_feedAll {text : List Char} {reached : Progress}
    (taken : feedAll {} 0 text = .ok reached) (outside : reached.mode.inString = false) :
    Accepted text := by
  have accepted := accepted_append_closing taken
  rwa [Mode.closing_eq_nil outside, List.append_nil] at accepted

theorem not_viable_of_refused {before : List Char} {c : Char} {reached : Progress}
    {problem : SyntaxProblem} (taken : feedAll {} 0 before = .ok reached)
    (refused : reached.feed c before.length = .error problem) : ¬ Viable (before ++ [c]) := by
  rintro ⟨rest, accepted⟩
  obtain ⟨arguments, read⟩ := accepted_iff_outcome.mp accepted
  rw [List.append_assoc, outcome_append_of_feedAll taken, Nat.zero_add, List.singleton_append,
    outcome_cons_of_error refused] at read
  cases read

/-! ### The string that is open at the end -/

/-- What stands at the end of a string that is still open in the mode, after
    its whole characters. -/
def dangling : Mode → List Char
  | .escaped => [escapeMark]
  | .between | .integer | .symbol | .quoted => []

/-- The reader stands inside a string whose opening quote is the start that it
    remembers: it stood between two tokens there, and all that follows belongs
    to the string. -/
def Opened (text : List Char) (reached : Progress) : Prop :=
  ∃ (front : List Char) (content : List QuotedChar) (outside : Progress),
    feedAll {} 0 front = .ok outside ∧ outside.mode = .between ∧ reached.start = front.length ∧
    text = front ++ quoteMark :: (quotedText content ++ dangling reached.mode)

theorem Opened.extend {before : List Char} {c : Char} {middle reached : Progress}
    (opened : Opened before middle) (sameStart : reached.start = middle.start)
    (goesOn : ∀ content, ∃ more, quotedText content ++ dangling middle.mode ++ [c] =
      quotedText more ++ dangling reached.mode) : Opened (before ++ [c]) reached := by
  obtain ⟨front, content, outside, takenFront, between, start, rfl⟩ := opened
  obtain ⟨more, same⟩ := goesOn content
  refine ⟨front, more, outside, takenFront, between, sameStart.trans start, ?_⟩
  rw [List.append_assoc, List.cons_append, same]

/-- **The start that is remembered belongs to the string that is open.** -/
theorem opened_of_feedAll {text : List Char} {reached : Progress}
    (taken : feedAll {} 0 text = .ok reached) (inside : reached.mode.inString = true) :
    Opened text reached := by
  -- from the end of the text: its last character opened the string, or the string was open
  induction text using List.reverseRecOn generalizing reached with
  | nil =>
    cases taken
    cases inside
  | append_singleton before c ih =>
    obtain ⟨middle, takenBefore, takenLast⟩ := feedAll_append_eq_ok_iff.mp taken
    obtain ⟨next, step, same⟩ := feedAll_cons_eq_ok_iff.mp takenLast
    cases same
    rw [Nat.zero_add] at step
    cases step with
    | skip mode separates =>
      rw [mode] at inside
      cases inside
    | beginInteger mode digit => cases inside
    | beginSymbol mode upper => cases inside
    | moreInteger mode digit => cases inside
    | closeInteger mode separates => cases inside
    | moreSymbol mode continues => cases inside
    | closeSymbol mode separates => cases inside
    | closeString mode => cases inside
    | beginString mode => exact ⟨before, [], middle, takenBefore, mode, rfl, rfl⟩
    | moreString mode free printable =>
      refine (ih takenBefore (by rw [mode]; rfl)).extend rfl fun content => ?_
      refine ⟨content ++ [.plain c free], ?_⟩
      simp [mode, dangling, quotedText, QuotedChar.text]
    | beginEscape mode =>
      refine (ih takenBefore (by rw [mode]; rfl)).extend rfl fun content => ?_
      refine ⟨content, ?_⟩
      simp [mode, dangling]
    | endEscape mode printable =>
      refine (ih takenBefore (by rw [mode]; rfl)).extend rfl fun content => ?_
      refine ⟨content ++ [.escaped c], ?_⟩
      simp [mode, dangling, quotedText, QuotedChar.text]

theorem eq_unterminatedString_of_finish {progress : Progress} {problem : SyntaxProblem}
    (unfinished : progress.finish = .error problem) : problem = .unterminatedString := by
  rw [finish] at unfinished
  split at unfinished <;> cases unfinished <;> rfl

/-- Characters of an open string can be continued to a quotation, so that no
    quotation ends among them. -/
theorem open_ne_closed (content other : List QuotedChar) (mode : Mode) (rest : List Char) :
    quotedText content ++ dangling mode ≠ quotedText other ++ quoteMark :: rest := by
  intro same
  have continued : ∃ (whole : List QuotedChar) (closing : List Char),
      quotedText whole ++ [quoteMark] = quotedText content ++ dangling mode ++ closing ∧
        closing ≠ [] := by
    cases mode with
    | escaped =>
      refine ⟨content ++ [.escaped quoteMark], [quoteMark, quoteMark], ?_, List.cons_ne_nil _ _⟩
      simp [dangling, quotedText, QuotedChar.text]
    | between | integer | symbol | quoted =>
      refine ⟨content, [quoteMark], ?_, List.cons_ne_nil _ _⟩
      rw [dangling, List.append_nil]
  obtain ⟨whole, closing, closed, nonempty⟩ := continued
  rw [same, List.append_assoc, List.cons_append] at closed
  obtain ⟨-, nothing⟩ := quotedText_inj closed
  exact nonempty (List.append_eq_nil_iff.mp nothing.symm).2

end Progress

/-! ### Where faults are reported -/

theorem offset_of_unfinished {text : String} {fault : SyntaxFault} {reached : Progress}
    (rejected : parse text = .error fault)
    (taken : Progress.feedAll {} 0 text.toList = .ok reached)
    (unfinished : reached.finish = .error fault.problem) : fault.offset = reached.start := by
  have read := Progress.outcome_append_of_feedAll taken []
  rw [List.append_nil, Progress.outcome_nil, unfinished] at read
  rw [parse_eq_outcome, read] at rejected
  exact (congrArg SyntaxFault.offset (Except.error.inj rejected)).symm

/-- **A fault stands at the earliest possible point.**  Its offset is that of a
    character of the text.  If it is about that character, then the text before
    the character can be continued to an accepted one, and with the character it
    cannot.  If it is a string that does not end, then its offset is that of a
    quote, the text before the quote is accepted, no quotation that begins with
    this quote is complete, and the whole text can be continued to an accepted
    one. -/
theorem fault_at_earliest_point {text : String} {fault : SyntaxFault}
    (rejected : parse text = .error fault) :
    fault.offset < text.toList.length ∧
      ((fault.problem ≠ .unterminatedString ∧
          Viable (text.toList.take fault.offset) ∧
          ¬ Viable (text.toList.take (fault.offset + 1))) ∨
        (fault.problem = .unterminatedString ∧
          text.toList[fault.offset]? = some quoteMark ∧
          Accepted (text.toList.take fault.offset) ∧
          (∀ content, ¬ quotation content <+: text.toList.drop fault.offset) ∧
          Viable text.toList)) := by
  rcases parse_eq_error_cases rejected with refusal | ⟨reached, taken, unfinished⟩
  · obtain ⟨before, c, after, reached, same, place, taken, refused⟩ := refusal
    rw [Nat.zero_add] at place
    rw [place] at refused
    have upTo : text.toList.take fault.offset = before := by rw [same, place, List.take_left]
    have past : text.toList.take (fault.offset + 1) = before ++ [c] := by
      rw [same, place, List.take_length_add_append, List.take_succ_cons, List.take_zero]
    refine ⟨?_, .inl ⟨?_, ?_, ?_⟩⟩
    · rw [same, place, List.length_append, List.length_cons]
      omega
    · intro unterminated
      rw [unterminated] at refused
      exact reached.feed_ne_unterminatedString c before.length refused
    · rw [upTo]
      exact Progress.viable_of_feedAll taken
    · rw [past]
      exact Progress.not_viable_of_refused taken refused
  · have inside := Progress.inString_of_finish_eq_error unfinished
    have place := offset_of_unfinished rejected taken unfinished
    obtain ⟨front, content, outside, takenFront, between, start, same⟩ :=
      Progress.opened_of_feedAll taken inside
    rw [start] at place
    refine ⟨?_, .inr ⟨?_, ?_, ?_, ?_, Progress.viable_of_feedAll taken⟩⟩
    · rw [same, place, List.length_append, List.length_cons]
      omega
    · exact Progress.eq_unterminatedString_of_finish unfinished
    · rw [same, place, List.getElem?_append_right (Nat.le_refl _), Nat.sub_self]
      rfl
    · rw [same, place, List.take_left]
      exact Progress.accepted_of_feedAll takenFront (by rw [between]; rfl)
    · rintro other ⟨rest, closed⟩
      rw [same, place, List.drop_left, quotation, List.cons_append, List.append_assoc] at closed
      exact Progress.open_ne_closed content other reached.mode rest (List.cons.inj closed).2.symm

/-- An open string after a constant, whose last character is a backslash. -/
theorem fault_at_earliest_point_of_open_string :
    parse "AB, 'c\\" = .error ⟨.unterminatedString, "AB, 'c\\", 4⟩ ∧
      "AB, 'c\\".toList[4]? = some quoteMark ∧ Accepted ("AB, 'c\\".toList.take 4) := by
  have rejected : parse "AB, 'c\\" = .error ⟨.unterminatedString, "AB, 'c\\", 4⟩ := rfl
  obtain ⟨-, ⟨notOpen, -⟩ | ⟨-, quote, accepted, -⟩⟩ := fault_at_earliest_point rejected
  · exact absurd rfl notOpen
  · exact ⟨rejected, quote, accepted⟩

end FieldRules.Arguments
