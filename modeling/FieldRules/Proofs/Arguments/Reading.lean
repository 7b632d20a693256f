/-
  FieldRules/Proofs/Arguments/Reading.lean
  ========================================
  **The reader accepts exactly the written forms.**

  The reader is an automaton of five modes that sees one character at a time;
  the written forms say what a whole text looks like.  `Step` lists all that
  the automaton can do with one character, and `feed_eq_ok_iff` says that the
  list is complete.  What the text may still hold in each mode is `Completes`:
  the end of the token in progress, then separators and tokens.  One step of
  the automaton takes one character off such a text and leaves such a text
  (`Step.completes`, `Completes.exists_step`), so by induction a run is accepted
  exactly when the text completes the progress made (`outcome_eq_ok_iff`).
-/
import FieldRules.Proofs.Arguments.Written
import Mathlib.Logic.ExistsUnique

namespace FieldRules.Arguments

open FieldRules.Text

namespace Progress

/-! ### What one character does -/

/-- All that a reader at an offset can do with a character that it takes. -/
inductive Step (progress : Progress) (offset : Nat) : Char → Progress → Prop
  | skip {c : Char} (mode : progress.mode = .between) (separates : isSeparator c = true) :
    Step progress offset c progress
  | beginInteger {c : Char} (mode : progress.mode = .between) (digit : c.isDigit = true) :
    Step progress offset c
      { progress with mode := .integer, value := digitOf c, start := offset }
  | beginSymbol {c : Char} (mode : progress.mode = .between) (upper : c.isUpper = true) :
    Step progress offset c
      { progress with mode := .symbol, pending := c :: progress.pending, start := offset }
  | beginString (mode : progress.mode = .between) :
    Step progress offset quoteMark { progress with mode := .quoted, start := offset }
  | moreInteger {c : Char} (mode : progress.mode = .integer) (digit : c.isDigit = true) :
    Step progress offset c
      { progress with
        mode := .integer, value := (progress.value * 10 + digitOf c) % integerModulus }
  | closeInteger {c : Char} (mode : progress.mode = .integer) (separates : isSeparator c = true) :
    Step progress offset c
      { progress with mode := .between, found := progress.found.addInteger progress.value }
  | moreSymbol {c : Char} (mode : progress.mode = .symbol)
      (continues : Name.isSymbolChar c = true) :
    Step progress offset c { progress with mode := .symbol, pending := c :: progress.pending }
  | closeSymbol {c : Char} (mode : progress.mode = .symbol) (separates : isSeparator c = true) :
    Step progress offset c
      { progress with
        mode := .between, pending := []
        found := progress.found.addSymbol progress.pending.reverse }
  | moreString {c : Char} (mode : progress.mode = .quoted)
      (free : c ≠ quoteMark ∧ c ≠ escapeMark) (printable : isPrintable c = true) :
    Step progress offset c { progress with mode := .quoted, pending := c :: progress.pending }
  | beginEscape (mode : progress.mode = .quoted) :
    Step progress offset escapeMark { progress with mode := .escaped }
  | closeString (mode : progress.mode = .quoted) :
    Step progress offset quoteMark
      { progress with
        mode := .between, pending := []
        found := progress.found.addString progress.pending.reverse }
  | endEscape {c : Char} (mode : progress.mode = .escaped) (printable : isPrintable c = true) :
    Step progress offset c { progress with mode := .quoted, pending := c :: progress.pending }

theorem step_of_feed {progress next : Progress} {c : Char} {offset : Nat}
    (taken : progress.feed c offset = .ok next) : Step progress offset c next := by
  cases mode : progress.mode with
  | between =>
    simp only [feed, mode] at taken
    split at taken
    · next digit => exact Except.ok.inj taken ▸ .beginInteger mode digit
    split at taken
    · next upper => exact Except.ok.inj taken ▸ .beginSymbol mode upper
    split at taken
    · next quote => exact Except.ok.inj taken ▸ eq_of_beq quote ▸ .beginString mode
    split at taken
    · next separates => exact Except.ok.inj taken ▸ .skip mode separates
    · cases taken
  | integer =>
    simp only [feed, mode] at taken
    split at taken
    · next separates => exact Except.ok.inj taken ▸ .closeInteger mode separates
    split at taken
    · next digit => exact Except.ok.inj taken ▸ .moreInteger mode digit
    · cases taken
  | symbol =>
    simp only [feed, mode] at taken
    split at taken
    · next separates => exact Except.ok.inj taken ▸ .closeSymbol mode separates
    split at taken
    · next continues => exact Except.ok.inj taken ▸ .moreSymbol mode continues
    · cases taken
  | quoted =>
    simp only [feed, mode] at taken
    split at taken
    · next quote => exact Except.ok.inj taken ▸ eq_of_beq quote ▸ .closeString mode
    split at taken
    · next escape => exact Except.ok.inj taken ▸ eq_of_beq escape ▸ .beginEscape mode
    split at taken
    · next quote escape printable =>
      exact Except.ok.inj taken ▸
        .moreString mode ⟨by simpa using quote, by simpa using escape⟩ printable
    · cases taken
  | escaped =>
    simp only [feed, mode] at taken
    split at taken
    · next printable => exact Except.ok.inj taken ▸ .endEscape mode printable
    · cases taken

theorem feed_of_step {progress next : Progress} {c : Char} {offset : Nat}
    (step : Step progress offset c next) : progress.feed c offset = .ok next := by
  cases step with
  | skip mode separates =>
    obtain ⟨notDigit, notUpper⟩ := begins_no_word_of_isSeparator separates
    have notQuote := (free_of_isSeparator separates).2
    simp [feed, mode, notDigit, notUpper, notQuote, separates]
  | beginInteger mode digit => simp [feed, mode, digit]
  | beginSymbol mode upper => simp [feed, mode, upper, isDigit_of_isUpper upper]
  | beginString mode =>
    have notWord : quoteMark.isDigit = false ∧ quoteMark.isUpper = false := by decide
    simp [feed, mode, notWord]
  | moreInteger mode digit =>
    simp [feed, mode, isSeparator_of_isSymbolChar (isSymbolChar_of_isDigit digit), digit]
  | closeInteger mode separates => simp [feed, mode, separates]
  | moreSymbol mode continues =>
    simp [feed, mode, isSeparator_of_isSymbolChar continues, continues]
  | closeSymbol mode separates => simp [feed, mode, separates]
  | moreString mode free printable => simp [feed, mode, free, printable]
  | beginEscape mode =>
    have notQuote : escapeMark ≠ quoteMark := by decide
    simp [feed, mode, notQuote]
  | closeString mode => simp [feed, mode]
  | endEscape mode printable => simp [feed, mode, printable]

/-- **The steps are what the reader does with the characters that it takes.** -/
theorem feed_eq_ok_iff {progress next : Progress} {c : Char} {offset : Nat} :
    progress.feed c offset = .ok next ↔ Step progress offset c next :=
  ⟨step_of_feed, feed_of_step⟩

/-! ### What a whole text does -/

/-- What comes of reading a text on from some progress: the arguments found in
    the end, or the problem that stops the reader and its offset. -/
def outcome (progress : Progress) (offset : Nat) (text : List Char) :
    Except (SyntaxProblem × Nat) Arguments :=
  match progress.read offset text with
  | (done, none) => .ok done.found
  | (_, some fault) => .error fault

theorem outcome_nil (progress : Progress) (offset : Nat) :
    progress.outcome offset [] =
      match progress.finish with
      | .ok done => .ok done.found
      | .error problem => .error (problem, progress.start) := by
  unfold outcome read
  cases progress.finish <;> rfl

theorem outcome_cons_of_ok {progress next : Progress} {c : Char} {offset : Nat}
    (taken : progress.feed c offset = .ok next) (rest : List Char) :
    progress.outcome offset (c :: rest) = next.outcome (offset + 1) rest := by
  simp [outcome, read, taken]

theorem outcome_cons_of_error {progress : Progress} {c : Char} {offset : Nat}
    {problem : SyntaxProblem} (refused : progress.feed c offset = .error problem)
    (rest : List Char) :
    progress.outcome offset (c :: rest) = .error (problem, offset) := by
  simp [outcome, read, refused]

theorem outcome_cons_eq_ok_iff {progress : Progress} {c : Char} {rest : List Char} {offset : Nat}
    {arguments : Arguments} :
    progress.outcome offset (c :: rest) = .ok arguments ↔
      ∃ next, Step progress offset c next ∧ next.outcome (offset + 1) rest = .ok arguments := by
  constructor
  · intro accepted
    cases taken : progress.feed c offset with
    | ok next =>
      rw [outcome_cons_of_ok taken] at accepted
      exact ⟨next, feed_eq_ok_iff.mp taken, accepted⟩
    | error problem =>
      rw [outcome_cons_of_error taken] at accepted
      cases accepted
  · rintro ⟨next, step, accepted⟩
    rw [outcome_cons_of_ok (feed_eq_ok_iff.mpr step)]
    exact accepted

/-! ### Texts that complete the progress made -/

/-- What the reader keeps true of its progress: between tokens and in an
    integer no characters are pending, and the integer fits in 64 bits. -/
structure Tidy (progress : Progress) : Prop where
  pending : progress.mode = .between ∨ progress.mode = .integer → progress.pending = []
  value : progress.mode = .integer → progress.value < integerModulus

theorem tidy_initial : Tidy {} := ⟨fun _ => rfl, fun mode => nomatch mode⟩

/-- **A step keeps the progress tidy.** -/
theorem Step.tidy {progress next : Progress} {c : Char} {offset : Nat}
    (step : Step progress offset c next) (tidy : progress.Tidy) : next.Tidy := by
  cases step with
  | skip mode separates => exact tidy
  | beginInteger mode digit =>
    refine ⟨fun _ => tidy.pending (.inl mode), fun _ => ?_⟩
    have bounds := Char.isDigit_iff_toNat.mp digit
    simp only [Char.reduceToNat] at bounds
    have small : digitOf c ≤ 9 := by
      simp only [digitOf, Char.reduceToNat]
      omega
    exact Nat.lt_of_le_of_lt small (by decide)
  | beginSymbol mode upper => exact ⟨by simp, by simp⟩
  | beginString mode => exact ⟨by simp, by simp⟩
  | moreInteger mode digit =>
    exact ⟨fun _ => tidy.pending (.inr mode), fun _ => Nat.mod_lt _ (by decide)⟩
  | closeInteger mode separates => exact ⟨fun _ => tidy.pending (.inr mode), by simp⟩
  | moreSymbol mode continues => exact ⟨by simp, by simp⟩
  | closeSymbol mode separates => exact ⟨fun _ => rfl, by simp⟩
  | moreString mode free printable => exact ⟨by simp, by simp⟩
  | beginEscape mode => exact ⟨by simp, by simp⟩
  | closeString mode => exact ⟨fun _ => rfl, by simp⟩
  | endEscape mode printable => exact ⟨by simp, by simp⟩

/-- The characters complete the token in progress, after which so much is
    found.  Between tokens there is nothing to complete. -/
def Finishes (progress : Progress) (ending : List Char) (found : Arguments) : Prop :=
  match progress.mode with
  | .between => ending = [] ∧ found = progress.found
  | .integer =>
    ∃ digits : Run Char.isDigit, ending = digits.chars ∧
      found = progress.found.append
        (reduced { integers := [Nat.ofDigitChars 10 digits.chars progress.value] })
  | .symbol =>
    ∃ more : Run Name.isSymbolChar, ending = more.chars ∧
      found = progress.found.append
        { symbols := [String.ofList (progress.pending.reverse ++ more.chars)] }
  | .quoted =>
    ∃ content : List QuotedChar, (∀ unit ∈ content, isPrintable unit.char = true) ∧
      ending = quotedText content ++ [quoteMark] ∧
      found = progress.found.append
        { strings := [String.ofList (progress.pending.reverse ++ content.map QuotedChar.char)] }
  | .escaped =>
    ∃ (c : Char) (content : List QuotedChar), isPrintable c = true ∧
      (∀ unit ∈ content, isPrintable unit.char = true) ∧
      ending = c :: (quotedText content ++ [quoteMark]) ∧
      found = progress.found.append
        { strings :=
          [String.ofList (progress.pending.reverse ++ c :: content.map QuotedChar.char)] }

/-- The text completes the progress made, and the arguments are what is found
    then: the end of the token in progress, separators, and closed tokens.  A
    word in progress has to be closed like any other. -/
def Completes (progress : Progress) (text : List Char) (arguments : Arguments) : Prop :=
  ∃ (ending : List Char) (found : Arguments) (gap : Separators) (items : List Item),
    Finishes progress ending found ∧
    (progress.mode = .integer ∨ progress.mode = .symbol → gap.chars ≠ [] ∨ items = []) ∧
    Closed items ∧
    text = ending ++ (gap.chars ++ itemsText items) ∧
    arguments = found.append (itemsValues items).reduced

/-- Reducing between the digits of a numeral does not change its value modulo
    2^64: the reader may reduce as often as it likes. -/
theorem ofDigitChars_mod (digits : List Char) (value : Nat) :
    Nat.ofDigitChars 10 digits (value % integerModulus) % integerModulus =
      Nat.ofDigitChars 10 digits value % integerModulus := by
  induction digits generalizing value with
  | nil => simp
  | cons c digits ih =>
    rw [Nat.ofDigitChars_cons, Nat.ofDigitChars_cons, ← ih, ← ih (10 * value + _)]
    congr 2
    rw [Nat.add_mod, Nat.mul_mod_mod, ← Nat.add_mod]

/-- **Backwards over a step.**  If the rest completes the progress after a step,
    then the character and the rest complete the progress before it. -/
theorem Step.completes {progress next : Progress} {c : Char} {rest : List Char} {offset : Nat}
    {arguments : Arguments} (step : Step progress offset c next) (tidy : progress.Tidy)
    (completes : next.Completes rest arguments) : progress.Completes (c :: rest) arguments := by
  obtain ⟨ending, found, gap, items, finishes, closes, closed, rfl, rfl⟩ := completes
  -- the character goes back in front of the ending, of the gap, or of a new first token
  cases step with
  | skip mode separates =>
    simp only [Finishes, mode] at finishes
    obtain ⟨rfl, rfl⟩ := finishes
    exact ⟨[], progress.found, gap.cons c separates, items, by simp [Finishes, mode],
      by simp [mode], closed, rfl, rfl⟩
  | beginInteger mode digit =>
    obtain ⟨digits, rfl, rfl⟩ := finishes
    refine ⟨[], progress.found, Run.empty,
      (.integer (digits.cons c digit) (List.cons_ne_nil _ _), gap) :: items,
      by simp [Finishes, mode], by simp [mode], ⟨.inr (closes (.inl rfl)), closed⟩,
      by simp [Token.text], ?_⟩
    simp [append_assoc, Token.values, Nat.ofDigitChars_cons, digitOf]
  | beginSymbol mode upper =>
    obtain ⟨more, rfl, rfl⟩ := finishes
    have isSymbol : Name.isSymbol (c :: more.chars) = true := by
      simpa [Name.isSymbol, upper] using more.all
    refine ⟨[], progress.found, Run.empty, (.symbol (c :: more.chars) isSymbol, gap) :: items,
      by simp [Finishes, mode], by simp [mode], ⟨.inr (closes (.inr rfl)), closed⟩,
      by simp [Token.text], ?_⟩
    simp [append_assoc, Token.values, tidy.pending (.inl mode)]
  | beginString mode =>
    obtain ⟨content, printable, rfl, rfl⟩ := finishes
    refine ⟨[], progress.found, Run.empty, (.string content printable, gap) :: items,
      by simp [Finishes, mode], by simp [mode], ⟨.inl rfl, closed⟩,
      by simp [Token.text, quotation], ?_⟩
    simp [append_assoc, Token.values, tidy.pending (.inl mode)]
  | moreInteger mode digit =>
    obtain ⟨digits, rfl, rfl⟩ := finishes
    refine ⟨(digits.cons c digit).chars, _, gap, items, ?_, fun _ => closes (.inl rfl), closed,
      rfl, rfl⟩
    simp only [Finishes, mode]
    refine ⟨digits.cons c digit, rfl, ?_⟩
    simp [reduced, ofDigitChars_mod, Nat.ofDigitChars_cons, digitOf, Nat.mul_comm]
  | closeInteger mode separates =>
    obtain ⟨rfl, rfl⟩ := finishes
    refine ⟨[], _, gap.cons c separates, items, ?_, by simp, closed, rfl, rfl⟩
    simp only [Finishes, mode]
    refine ⟨Run.empty, rfl, ?_⟩
    simp [reduced, append, addInteger, Nat.mod_eq_of_lt (tidy.value mode)]
  | moreSymbol mode continues =>
    obtain ⟨more, rfl, rfl⟩ := finishes
    refine ⟨(more.cons c continues).chars, _, gap, items, ?_, fun _ => closes (.inr rfl), closed,
      rfl, rfl⟩
    simp only [Finishes, mode]
    exact ⟨more.cons c continues, rfl, by simp⟩
  | closeSymbol mode separates =>
    obtain ⟨rfl, rfl⟩ := finishes
    refine ⟨[], _, gap.cons c separates, items, ?_, by simp, closed, rfl, rfl⟩
    simp only [Finishes, mode]
    exact ⟨Run.empty, rfl, by simp [append, addSymbol]⟩
  | moreString mode free printable =>
    obtain ⟨content, others, rfl, rfl⟩ := finishes
    refine ⟨c :: (quotedText content ++ [quoteMark]), _, gap, items, ?_, by simp [mode], closed,
      rfl, rfl⟩
    simp only [Finishes, mode]
    exact ⟨.plain c free :: content, by simpa using ⟨printable, others⟩, rfl,
      by simp [QuotedChar.char]⟩
  | beginEscape mode =>
    obtain ⟨c, content, printable, others, rfl, rfl⟩ := finishes
    refine ⟨escapeMark :: c :: (quotedText content ++ [quoteMark]), _, gap, items, ?_,
      by simp [mode], closed, rfl, rfl⟩
    simp only [Finishes, mode]
    exact ⟨.escaped c :: content, by simpa using ⟨printable, others⟩, rfl,
      by simp [QuotedChar.char]⟩
  | closeString mode =>
    obtain ⟨rfl, rfl⟩ := finishes
    refine ⟨[quoteMark], _, gap, items, ?_, by simp [mode], closed, rfl, rfl⟩
    simp only [Finishes, mode]
    exact ⟨[], by simp, rfl, by simp [append, addString]⟩
  | endEscape mode printable =>
    obtain ⟨content, others, rfl, rfl⟩ := finishes
    refine ⟨c :: (quotedText content ++ [quoteMark]), _, gap, items, ?_, by simp [mode], closed,
      rfl, rfl⟩
    simp only [Finishes, mode]
    exact ⟨c, content, printable, others, rfl, by simp⟩

/-- The first character of a token takes a reader from between tokens into the
    token, and the rest completes it. -/
theorem exists_step_of_itemsText {progress : Progress} {c : Char} {rest : List Char}
    {items : List Item} (mode : progress.mode = .between) (tidy : progress.Tidy)
    (closed : Closed items) (same : c :: rest = itemsText items) (offset : Nat) :
    ∃ next, Step progress offset c next ∧
      next.Completes rest (progress.found.append (itemsValues items).reduced) := by
  cases items with
  | nil => cases same
  | cons item later =>
    obtain ⟨token, gap⟩ := item
    rw [itemsText_cons] at same
    cases token with
    | integer digits nonempty =>
      obtain ⟨d, digit, digits, rfl⟩ := Run.eq_cons_of_ne_nil nonempty
      rw [Token.text, Run.chars_cons, List.cons_append] at same
      obtain ⟨rfl, rfl⟩ := List.cons.inj same
      refine ⟨_, .beginInteger mode digit, digits.chars, _, gap, later, ⟨digits, rfl, rfl⟩,
        fun _ => closed.1.resolve_left (by simp [Token.closesItself]), closed.2, rfl, ?_⟩
      simp [append_assoc, Token.values, Nat.ofDigitChars_cons, digitOf]
    | string content printable =>
      rw [Token.text, quotation, List.cons_append] at same
      obtain ⟨rfl, rfl⟩ := List.cons.inj same
      refine ⟨_, .beginString mode, _, _, gap, later, ⟨content, printable, rfl, rfl⟩,
        by simp, closed.2, rfl, ?_⟩
      simp [append_assoc, Token.values, tidy.pending (.inl mode)]
    | symbol name isSymbol =>
      obtain ⟨d, more, upper, rfl⟩ := Token.exists_run_of_isSymbol isSymbol
      rw [Token.text, List.cons_append] at same
      obtain ⟨rfl, rfl⟩ := List.cons.inj same
      refine ⟨_, .beginSymbol mode upper, more.chars, _, gap, later, ⟨more, rfl, rfl⟩,
        fun _ => closed.1.resolve_left (by simp [Token.closesItself]), closed.2, rfl, ?_⟩
      simp [append_assoc, Token.values, tidy.pending (.inl mode)]

/-- **Forwards over a step.**  If a text with a first character completes the
    progress, then a step takes the character and the rest completes the
    progress after it. -/
theorem Completes.exists_step {progress : Progress} {c : Char} {rest : List Char}
    {arguments : Arguments} (completes : progress.Completes (c :: rest) arguments)
    (tidy : progress.Tidy) (offset : Nat) :
    ∃ next, Step progress offset c next ∧ next.Completes rest arguments := by
  obtain ⟨ending, found, gap, items, finishes, closes, closed, same, rfl⟩ := completes
  -- the mode and the first character of the ending, the gap or the tokens tell the step
  cases mode : progress.mode with
  | between =>
    simp only [Finishes, mode] at finishes
    obtain ⟨rfl, rfl⟩ := finishes
    rcases gap.eq_empty_or_eq_cons with rfl | ⟨d, separates, gap, rfl⟩
    · exact exists_step_of_itemsText mode tidy closed same offset
    · obtain ⟨rfl, rfl⟩ := List.cons.inj same
      refine ⟨progress, .skip mode separates, [], progress.found, gap, items,
        by simp [Finishes, mode], by simp [mode], closed, rfl, rfl⟩
  | integer =>
    simp only [Finishes, mode] at finishes
    obtain ⟨digits, rfl, rfl⟩ := finishes
    rcases digits.eq_empty_or_eq_cons with rfl | ⟨d, digit, digits, rfl⟩
    · rcases gap.eq_empty_or_eq_cons with rfl | ⟨d, separates, gap, rfl⟩
      · rw [(closes (.inl mode)).resolve_left (by simp)] at same
        cases same
      · obtain ⟨rfl, rfl⟩ := List.cons.inj same
        refine ⟨_, .closeInteger mode separates, [], _, gap, items, ⟨rfl, rfl⟩, by simp, closed,
          rfl, ?_⟩
        simp [reduced, append, addInteger, Nat.mod_eq_of_lt (tidy.value mode)]
    · obtain ⟨rfl, rfl⟩ := List.cons.inj same
      refine ⟨_, .moreInteger mode digit, digits.chars, _, gap, items, ⟨digits, rfl, rfl⟩,
        fun _ => closes (.inl mode), closed, rfl, ?_⟩
      simp [reduced, ofDigitChars_mod, Nat.ofDigitChars_cons, digitOf, Nat.mul_comm]
  | symbol =>
    simp only [Finishes, mode] at finishes
    obtain ⟨more, rfl, rfl⟩ := finishes
    rcases more.eq_empty_or_eq_cons with rfl | ⟨d, continues, more, rfl⟩
    · rcases gap.eq_empty_or_eq_cons with rfl | ⟨d, separates, gap, rfl⟩
      · rw [(closes (.inr mode)).resolve_left (by simp)] at same
        cases same
      · obtain ⟨rfl, rfl⟩ := List.cons.inj same
        refine ⟨_, .closeSymbol mode separates, [], _, gap, items, ⟨rfl, rfl⟩, by simp, closed,
          rfl, ?_⟩
        simp [append, addSymbol]
    · obtain ⟨rfl, rfl⟩ := List.cons.inj same
      refine ⟨_, .moreSymbol mode continues, more.chars, _, gap, items, ⟨more, rfl, rfl⟩,
        fun _ => closes (.inr mode), closed, rfl, by simp⟩
  | quoted =>
    simp only [Finishes, mode] at finishes
    obtain ⟨content, printable, rfl, rfl⟩ := finishes
    cases content with
    | nil =>
      obtain ⟨rfl, rfl⟩ := List.cons.inj same
      exact ⟨_, .closeString mode, [], _, gap, items, ⟨rfl, rfl⟩, by simp, closed, rfl,
        by simp [append, addString]⟩
    | cons unit content =>
      have first := printable unit List.mem_cons_self
      have others : ∀ unit ∈ content, isPrintable unit.char = true :=
        fun unit member => printable unit (.tail _ member)
      cases unit with
      | plain d free =>
        obtain ⟨rfl, rfl⟩ := List.cons.inj same
        exact ⟨_, .moreString mode free first, _, _, gap, items, ⟨content, others, rfl, rfl⟩,
          by simp, closed, rfl, by simp [QuotedChar.char]⟩
      | escaped d =>
        obtain ⟨rfl, rfl⟩ := List.cons.inj same
        exact ⟨_, .beginEscape mode, _, _, gap, items, ⟨d, content, first, others, rfl, rfl⟩,
          by simp, closed, rfl, by simp [QuotedChar.char]⟩
  | escaped =>
    simp only [Finishes, mode] at finishes
    obtain ⟨d, content, first, printable, rfl, rfl⟩ := finishes
    obtain ⟨rfl, rfl⟩ := List.cons.inj same
    exact ⟨_, .endEscape mode first, _, _, gap, items, ⟨content, printable, rfl, rfl⟩,
      by simp, closed, rfl, by simp⟩

/-- At its end a text is accepted when nothing is needed to complete it. -/
theorem outcome_nil_eq_ok_iff {progress : Progress} (tidy : progress.Tidy) {offset : Nat}
    {arguments : Arguments} :
    progress.outcome offset [] = .ok arguments ↔ progress.Completes [] arguments := by
  rw [outcome_nil]
  constructor
  · intro accepted
    cases mode : progress.mode with
    | between =>
      simp only [finish, mode, Except.ok.injEq] at accepted
      subst accepted
      exact ⟨[], progress.found, Run.empty, [], by simp [Finishes, mode], by simp, trivial, rfl,
        (append_empty _).symm⟩
    | integer =>
      simp only [finish, mode, Except.ok.injEq] at accepted
      subst accepted
      refine ⟨[], _, Run.empty, [], ?_, by simp, trivial, rfl, (append_empty _).symm⟩
      simp only [Finishes, mode]
      refine ⟨Run.empty, rfl, ?_⟩
      simp [reduced, append, addInteger, Nat.mod_eq_of_lt (tidy.value mode)]
    | symbol =>
      simp only [finish, mode, Except.ok.injEq] at accepted
      subst accepted
      refine ⟨[], _, Run.empty, [], ?_, by simp, trivial, rfl, (append_empty _).symm⟩
      simp only [Finishes, mode]
      exact ⟨Run.empty, rfl, by simp [append, addSymbol]⟩
    | quoted => simp [finish, mode] at accepted
    | escaped => simp [finish, mode] at accepted
  · rintro ⟨ending, found, gap, items, finishes, -, -, same, rfl⟩
    obtain ⟨rfl, rest⟩ := List.append_eq_nil_iff.mp same.symm
    obtain ⟨-, noItems⟩ := List.append_eq_nil_iff.mp rest
    obtain rfl : items = [] := by
      cases items with
      | nil => rfl
      | cons item later => exact absurd noItems (itemsText_ne_nil item later)
    cases mode : progress.mode with
    | between =>
      simp only [Finishes, mode] at finishes
      simp [finish, mode, finishes]
    | integer =>
      simp only [Finishes, mode] at finishes
      obtain ⟨digits, none, rfl⟩ := finishes
      simp [finish, mode, ← none, reduced, append, addInteger, Nat.mod_eq_of_lt (tidy.value mode)]
    | symbol =>
      simp only [Finishes, mode] at finishes
      obtain ⟨more, none, rfl⟩ := finishes
      simp [finish, mode, ← none, append, addSymbol]
    | quoted => simp [Finishes, mode] at finishes
    | escaped => simp [Finishes, mode] at finishes

/-- **The reader accepts what completes its progress**, and finds what the text
    completes it to. -/
theorem outcome_eq_ok_iff {progress : Progress} (tidy : progress.Tidy) {offset : Nat}
    {text : List Char} {arguments : Arguments} :
    progress.outcome offset text = .ok arguments ↔ progress.Completes text arguments := by
  induction text generalizing progress offset with
  | nil => exact outcome_nil_eq_ok_iff tidy
  | cons c rest ih =>
    rw [outcome_cons_eq_ok_iff]
    constructor
    · rintro ⟨next, step, accepted⟩
      exact step.completes tidy ((ih (step.tidy tidy)).mp accepted)
    · intro completes
      obtain ⟨next, step, rest⟩ := completes.exists_step tidy offset
      exact ⟨next, step, (ih (step.tidy tidy)).mpr rest⟩

/-- From the start, a text is completed by separators and closed tokens. -/
theorem completes_initial_iff {text : List Char} {arguments : Arguments} :
    Completes {} text arguments ↔
      ∃ written : Written, written.text = text ∧ written.values.reduced = arguments := by
  constructor
  · rintro ⟨ending, found, gap, items, ⟨rfl, rfl⟩, -, closed, rfl, rfl⟩
    exact ⟨⟨gap, items, closed⟩, rfl, rfl⟩
  · rintro ⟨⟨gap, items, closed⟩, rfl, rfl⟩
    exact ⟨[], {}, gap, items, ⟨rfl, rfl⟩, by simp, closed, rfl, rfl⟩

end Progress

/-! ### The language of argument text -/

theorem parse_eq_outcome (text : String) :
    parse text = (({} : Progress).outcome 0 text.toList).mapError
      fun fault => ⟨fault.1, text, fault.2⟩ := by
  unfold parse Reader.pass Progress.outcome
  split
  · next found => simp only [found]; rfl
  · next found => simp only [found]; rfl

theorem parse_eq_ok_iff_outcome {text : String} {arguments : Arguments} :
    parse text = .ok arguments ↔ ({} : Progress).outcome 0 text.toList = .ok arguments := by
  rw [parse_eq_outcome]
  cases ({} : Progress).outcome 0 text.toList with
  | ok found =>
    change Except.ok found = Except.ok arguments ↔ _
    rw [Except.ok.injEq, Except.ok.injEq]
  | error fault =>
    constructor
    · intro same
      cases same
    · intro same
      cases same

/-- A text is read exactly when it has a written form, and then gives what the
    written form says. -/
theorem parse_eq_ok_iff_exists_written {text : String} {arguments : Arguments} :
    parse text = .ok arguments ↔
      ∃ written : Written, written.text = text.toList ∧ written.values.reduced = arguments := by
  rw [parse_eq_ok_iff_outcome, Progress.outcome_eq_ok_iff Progress.tidy_initial,
    Progress.completes_initial_iff]

/-- Every token of a text is one argument of one kind. -/
theorem size_values (written : Written) : written.values.reduced.size = written.items.length := by
  obtain ⟨leading, items, closed⟩ := written
  simp only [Written.values]
  clear closed
  induction items with
  | nil => rfl
  | cons item later ih =>
    obtain ⟨token, gap⟩ := item
    rw [itemsValues_cons, reduced_append, size_append, ih, List.length_cons, Nat.add_comm]
    cases token <;> rfl

/-- **The reader accepts exactly the language of argument text.**  A text gives
    arguments if and only if it can be written as separators and closed tokens;
    it can be so written in one way only, and the arguments are then the values
    of its tokens in order, each in the list of its kind, with integers reduced
    to 64 bits.  Every other text is a fault. -/
theorem parse_accepts_exactly_written (text : String) :
    (∀ arguments, parse text = .ok arguments ↔
      ∃ written : Written, written.text = text.toList ∧ written.values.reduced = arguments ∧
        arguments.size = written.items.length) ∧
    ((∃ arguments, parse text = .ok arguments) ↔
      ∃! written : Written, written.text = text.toList) ∧
    ((∃ fault, parse text = .error fault) ↔
      ¬ ∃ written : Written, written.text = text.toList) := by
  have accepted : (∃ arguments, parse text = .ok arguments) ↔
      ∃ written : Written, written.text = text.toList := by
    constructor
    · rintro ⟨arguments, ok⟩
      obtain ⟨written, same, -⟩ := parse_eq_ok_iff_exists_written.mp ok
      exact ⟨written, same⟩
    · rintro ⟨written, same⟩
      exact ⟨_, parse_eq_ok_iff_exists_written.mpr ⟨written, same, rfl⟩⟩
  refine ⟨fun arguments => ?_, accepted.trans ⟨?_, ExistsUnique.exists⟩, ?_⟩
  · rw [parse_eq_ok_iff_exists_written]
    constructor
    · rintro ⟨written, same, rfl⟩
      exact ⟨written, same, rfl, size_values written⟩
    · rintro ⟨written, same, values, -⟩
      exact ⟨written, same, values⟩
  · rintro ⟨written, same⟩
    exact ⟨written, same, fun other otherSame =>
      Written.text_injective (otherSame.trans same.symm)⟩
  · rw [← accepted]
    cases parse text <;> simp

end FieldRules.Arguments
