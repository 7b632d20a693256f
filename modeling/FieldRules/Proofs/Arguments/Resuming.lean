/-
  FieldRules/Proofs/Arguments/Resuming.lean
  =========================================
  **Reading goes on over a separator as it began.**

  A reader that is at rest, between two tokens and with no characters pending,
  differs from a fresh one in what it found before, and in the value and the
  start of a token that is long closed.  The latter two are set again before they
  are looked at, so the two readers stay in step (`Resumes.step`) and refuse the
  same characters: what is read further on is what a fresh reader makes of it,
  behind what was found before (`Resumes.outcome`).

  A reader comes to rest where it may end: a separator closes what the end of the
  text would have closed.  So argument text is read piece by piece
  (`reading_over_separator`), and a second pass of a reader finds the same again
  (`passes_repeat_arguments`).
-/
import FieldRules.Proofs.Arguments.Trimming
import FieldRules.Proofs.Arguments.Feeding

namespace FieldRules.Arguments

open FieldRules.Text

namespace Progress

variable {fresh later next : Progress} {earlier arguments : Arguments} {offset distance : Nat}

/-! ### Readers in step -/

/-- The later reader stands where the fresh one does, at a distance further on in
    the text and behind what was found earlier.  The value counts inside an
    integer only, and the start inside a string. -/
structure Resumes (earlier : Arguments) (distance : Nat) (fresh later : Progress) : Prop where
  mode : later.mode = fresh.mode
  pending : later.pending = fresh.pending
  found : later.found = earlier.append fresh.found
  value : fresh.mode = .integer → later.value = fresh.value
  start : fresh.mode.inString = true → later.start = fresh.start + distance

/-- Nothing is in progress. -/
structure AtRest (progress : Progress) : Prop where
  mode : progress.mode = .between
  pending : progress.pending = []

theorem AtRest.resumes (rest : later.AtRest) (distance : Nat) :
    Resumes later.found distance {} later where
  mode := rest.mode
  pending := rest.pending
  found := (append_empty _).symm
  value integer := nomatch integer
  start inString := nomatch inString

/-- **Readers stay in step**: what one character does to the fresh reader, it does
    to the later one. -/
theorem Resumes.step {c : Char} (resumes : Resumes earlier distance fresh later)
    (step : Step fresh offset c next) :
    ∃ reached, Step later (offset + distance) c reached ∧
      Resumes earlier distance next reached := by
  obtain ⟨sameMode, samePending, sameFound, sameValue, sameStart⟩ := resumes
  -- A token that begins sets the value or the start anew, and only its own steps read them.
  cases step with
  | skip mode separates =>
    exact ⟨later, .skip (sameMode.trans mode) separates,
      sameMode, samePending, sameFound, sameValue, sameStart⟩
  | beginInteger mode digit =>
    exact ⟨_, .beginInteger (sameMode.trans mode) digit, rfl, samePending, sameFound,
      fun _ => rfl, by simp [Mode.inString]⟩
  | beginSymbol mode upper =>
    exact ⟨_, .beginSymbol (sameMode.trans mode) upper, rfl, by simp [samePending], sameFound,
      by simp, by simp [Mode.inString]⟩
  | beginString mode =>
    exact ⟨_, .beginString (sameMode.trans mode), rfl, samePending, sameFound, by simp,
      fun _ => rfl⟩
  | moreInteger mode digit =>
    exact ⟨_, .moreInteger (sameMode.trans mode) digit, rfl, samePending, sameFound,
      fun _ => by simp [sameValue mode], by simp [Mode.inString]⟩
  | closeInteger mode separates =>
    exact ⟨_, .closeInteger (sameMode.trans mode) separates, rfl, samePending,
      by simp [sameFound, sameValue mode, append, addInteger], by simp, by simp [Mode.inString]⟩
  | moreSymbol mode continues =>
    exact ⟨_, .moreSymbol (sameMode.trans mode) continues, rfl, by simp [samePending], sameFound,
      by simp, by simp [Mode.inString]⟩
  | closeSymbol mode separates =>
    exact ⟨_, .closeSymbol (sameMode.trans mode) separates, rfl, rfl,
      by simp [sameFound, samePending, append, addSymbol], by simp, by simp [Mode.inString]⟩
  | moreString mode free printable =>
    exact ⟨_, .moreString (sameMode.trans mode) free printable, rfl, by simp [samePending],
      sameFound, by simp, fun _ => sameStart (by rw [mode]; rfl)⟩
  | beginEscape mode =>
    exact ⟨_, .beginEscape (sameMode.trans mode), rfl, samePending, sameFound, by simp,
      fun _ => sameStart (by rw [mode]; rfl)⟩
  | closeString mode =>
    exact ⟨_, .closeString (sameMode.trans mode), rfl, rfl,
      by simp [sameFound, samePending, append, addString], by simp, by simp [Mode.inString]⟩
  | endEscape mode printable =>
    exact ⟨_, .endEscape (sameMode.trans mode) printable, rfl, by simp [samePending],
      sameFound, by simp, fun _ => sameStart (by rw [mode]; rfl)⟩

/-- Which characters are refused, and why, is told by the mode alone. -/
theorem refused_of_mode_eq (sameMode : later.mode = fresh.mode) {c : Char} {place : Nat}
    {problem : SyntaxProblem} (refused : fresh.feed c offset = .error problem) :
    later.feed c place = .error problem := by
  cases mode : fresh.mode <;> simp only [feed, sameMode, mode] at refused ⊢
  all_goals
    repeat' split at refused
    all_goals simp_all

/-- What comes of a text that stands at a distance behind another one, in which
    something was found. -/
def behind (earlier : Arguments) (distance : Nat) :
    Except (SyntaxProblem × Nat) Arguments → Except (SyntaxProblem × Nat) Arguments
  | .ok arguments => .ok (earlier.append arguments)
  | .error (problem, place) => .error (problem, place + distance)

theorem Resumes.outcome_nil (resumes : Resumes earlier distance fresh later) :
    later.outcome (offset + distance) [] = behind earlier distance (fresh.outcome offset []) := by
  obtain ⟨sameMode, samePending, sameFound, sameValue, sameStart⟩ := resumes
  rw [Progress.outcome_nil, Progress.outcome_nil]
  cases mode : fresh.mode with
  | between => simp [finish, sameMode, mode, behind, sameFound]
  | integer =>
    simp [finish, sameMode, mode, behind, sameFound, sameValue mode, append, addInteger]
  | symbol => simp [finish, sameMode, mode, behind, sameFound, samePending, append, addSymbol]
  | quoted | escaped =>
    have start : later.start = fresh.start + distance := sameStart (by rw [mode]; rfl)
    simp [finish, sameMode, mode, behind, start]

/-- **Readers in step read the same**, the later one behind what was found earlier
    and at a distance. -/
theorem Resumes.outcome (resumes : Resumes earlier distance fresh later) (offset : Nat)
    (text : List Char) :
    later.outcome (offset + distance) text =
      behind earlier distance (fresh.outcome offset text) := by
  induction text generalizing fresh later offset with
  | nil => exact resumes.outcome_nil
  | cons c rest ih =>
    cases taken : fresh.feed c offset with
    | error problem =>
      rw [outcome_cons_of_error taken,
        outcome_cons_of_error (refused_of_mode_eq resumes.mode taken), behind]
    | ok next =>
      obtain ⟨reached, step, stays⟩ := resumes.step (feed_eq_ok_iff.mp taken)
      rw [outcome_cons_of_ok taken, outcome_cons_of_ok (feed_of_step step), ← ih stays,
        Nat.add_right_comm]

/-! ### Coming to rest -/

/-- Over a separator a reader that may end comes to rest, with what it would have
    found. -/
theorem exists_atRest_of_outcome {progress : Progress} {text : List Char} {c : Char}
    (tidy : progress.Tidy) (separates : isSeparator c = true)
    (accepted : progress.outcome offset text = .ok arguments) :
    ∃ reached : Progress, reached.AtRest ∧ reached.found = arguments ∧
      ∀ rest, progress.outcome offset (text ++ c :: rest) =
        reached.outcome (offset + (text.length + 1)) rest := by
  induction text generalizing progress offset with
  | nil =>
    obtain ⟨reached, step, between, found⟩ := exists_step_of_outcome_nil separates accepted
    exact ⟨reached, ⟨between, (step.tidy tidy).pending (.inl between)⟩, found,
      outcome_cons_of_ok (feed_of_step step)⟩
  | cons d text ih =>
    obtain ⟨next, step, acceptedRest⟩ := outcome_cons_eq_ok_iff.mp accepted
    obtain ⟨reached, rests, found, goesOn⟩ := ih (step.tidy tidy) acceptedRest
    refine ⟨reached, rests, found, fun rest => ?_⟩
    rw [List.cons_append, outcome_cons_of_ok (feed_of_step step), goesOn, List.length_cons,
      Nat.add_assoc, Nat.add_comm 1]

theorem outcome_append_separator {first : List Char} {c : Char} (separates : isSeparator c = true)
    (accepted : Progress.outcome {} 0 first = .ok earlier) (second : List Char) :
    Progress.outcome {} 0 (first ++ c :: second) =
      behind earlier (first.length + 1) (Progress.outcome {} 0 second) := by
  obtain ⟨reached, rests, rfl, goesOn⟩ :=
    exists_atRest_of_outcome tidy_initial separates accepted
  rw [goesOn]
  exact (rests.resumes _).outcome 0 second

theorem atRest_of_finish {progress done : Progress} (tidy : progress.Tidy)
    (finished : progress.finish = .ok done) : done.AtRest := by
  cases mode : progress.mode with
  | between =>
    simp only [finish, mode, Except.ok.injEq] at finished
    exact finished ▸ ⟨mode, tidy.pending (.inl mode)⟩
  | integer =>
    simp only [finish, mode, Except.ok.injEq] at finished
    exact finished ▸ ⟨rfl, tidy.pending (.inr mode)⟩
  | symbol =>
    simp only [finish, mode, Except.ok.injEq] at finished
    exact finished ▸ ⟨rfl, rfl⟩
  | quoted | escaped => simp [finish, mode] at finished

/-- A reader that comes through a text is at rest afterwards. -/
theorem exists_read_of_outcome {progress : Progress} {text : List Char} (tidy : progress.Tidy)
    (accepted : progress.outcome offset text = .ok arguments) :
    ∃ done, progress.read offset text = (done, none) ∧ done.AtRest ∧ done.found = arguments := by
  induction text generalizing progress offset with
  | nil =>
    rw [Progress.outcome_nil] at accepted
    cases finished : progress.finish with
    | error problem =>
      rw [finished] at accepted
      cases accepted
    | ok done =>
      rw [finished] at accepted
      exact ⟨done, by rw [read, finished], atRest_of_finish tidy finished, Except.ok.inj accepted⟩
  | cons c rest ih =>
    obtain ⟨next, step, acceptedRest⟩ := outcome_cons_eq_ok_iff.mp accepted
    obtain ⟨done, through, rests, found⟩ := ih (step.tidy tidy) acceptedRest
    exact ⟨done, by simp only [read, feed_of_step step, through], rests, found⟩

end Progress

/-! ### Over a separator -/

theorem parse_append_separator {first : Arguments} {a : String} (accepted : parse a = .ok first)
    {c : Char} (separates : isSeparator c = true) (b : String) :
    parse (a ++ c.toString ++ b) =
      match parse b with
      | .ok second => .ok (first.append second)
      | .error fault => .error
          { problem := fault.problem, text := a ++ c.toString ++ b
            offset := fault.offset + (a.length + 1) } := by
  have chars : (a ++ c.toString ++ b).toList = a.toList ++ c :: b.toList := by simp
  rw [parse_eq_outcome, chars, Progress.outcome_append_separator separates
    (parse_eq_ok_iff_outcome.mp accepted), parse_eq_outcome b]
  cases Progress.outcome {} 0 b.toList with
  | ok second => rfl
  | error fault => rfl

/-- **Reading goes over a separator piece by piece.**  If a text is accepted, then behind it
    and a separator another text is read as it is alone: what is found in it follows what was
    found before, kind by kind, and a fault in it is the same fault, further on by the text and
    the separator.  So blanks around a text change nothing of what is read, whether they are put
    there or stripped, and no text is accepted on account of them. -/
theorem reading_over_separator :
    (∀ (a b : String) (c : Char) (first : Arguments), isSeparator c = true →
      parse a = .ok first →
        (∀ second, parse b = .ok second →
          parse (a ++ c.toString ++ b) = .ok (first.append second)) ∧
        (∀ fault, parse b = .error fault →
          parse (a ++ c.toString ++ b) = .error
            { problem := fault.problem, text := a ++ c.toString ++ b
              offset := fault.offset + (a.length + 1) })) ∧
    (∀ (before after : Blanks) (text : List Char) (arguments : Arguments),
      parse (String.ofList (before.chars ++ (text ++ after.chars))) = .ok arguments ↔
        parse (String.ofList text) = .ok arguments) ∧
    ∀ (text : List Char) (arguments : Arguments),
      parse (String.ofList (trim text)) = .ok arguments ↔
        parse (String.ofList text) = .ok arguments := by
  refine ⟨fun a b c first separates accepted => ⟨fun second later => ?_, fun fault later => ?_⟩,
    fun before after text arguments => parse_blanks_eq_ok_iff before after,
    fun text arguments => parse_trim_eq_ok_iff⟩
  · rw [parse_append_separator accepted separates, later]
  · rw [parse_append_separator accepted separates, later]

/-- A constant, a line break and a string; and the same with the string left open. -/
theorem reading_over_line_break :
    isSeparator '\n' = true ∧ parse "7 LIMIT" = .ok { integers := [7], symbols := ["LIMIT"] } ∧
      parse "'a'2" = .ok { integers := [2], strings := ["a"] } ∧
      parse "7 LIMIT\n'a'2" =
        .ok { integers := [7, 2], strings := ["a"], symbols := ["LIMIT"] } ∧
      parse "1 'a" = .error ⟨.unterminatedString, "1 'a", 2⟩ ∧
      parse "7 LIMIT\n1 'a" = .error ⟨.unterminatedString, "7 LIMIT\n1 'a", 10⟩ := by
  have line : isSeparator '\n' = true := by decide
  have first : parse "7 LIMIT" = .ok { integers := [7], symbols := ["LIMIT"] } := rfl
  have second : parse "'a'2" = .ok { integers := [2], strings := ["a"] } := rfl
  have fault : parse "1 'a" = .error ⟨.unterminatedString, "1 'a", 2⟩ := rfl
  exact ⟨line, first, second, (reading_over_separator.1 _ _ _ _ line first).1 _ second, fault,
    (reading_over_separator.1 _ _ _ _ line first).2 _ fault⟩

/-! ### Passes of one reader -/

def times (arguments : Arguments) (count : Nat) : Arguments :=
  { integers := (List.replicate count arguments.integers).flatten
    strings := (List.replicate count arguments.strings).flatten
    symbols := (List.replicate count arguments.symbols).flatten }

@[simp] theorem times_zero (arguments : Arguments) : arguments.times 0 = {} := rfl

theorem times_succ (arguments : Arguments) (count : Nat) :
    arguments.times (count + 1) = arguments.append (arguments.times count) := by
  simp [times, append, List.replicate_succ]

theorem times_succ' (arguments : Arguments) (count : Nat) :
    arguments.times (count + 1) = (arguments.times count).append arguments := by
  simp [times, append, List.replicate_succ']

def Reader.after (reader : Reader) : Nat → Reader
  | 0 => reader
  | count + 1 => reader.pass.1.after count

/-- A reader at rest finds what a fresh reader finds, behind what it found before, and is
    at rest again. -/
theorem Reader.pass_of_atRest {reader : Reader} {arguments : Arguments}
    (rest : reader.progress.AtRest) (accepted : parse reader.text = .ok arguments) :
    ∃ progress : Progress, progress.AtRest ∧
      progress.found = reader.progress.found.append arguments ∧
      reader.pass = ({ reader with progress := progress }, .ok progress.found) := by
  have tidy : reader.progress.Tidy :=
    ⟨fun _ => rest.pending, fun integer => nomatch rest.mode.symm.trans integer⟩
  have read : reader.progress.outcome 0 reader.text.toList =
      .ok (reader.progress.found.append arguments) := by
    have goesOn := (rest.resumes 0).outcome 0 reader.text.toList
    rwa [parse_eq_ok_iff_outcome.mp accepted] at goesOn
  obtain ⟨progress, through, rests, found⟩ := Progress.exists_read_of_outcome tidy read
  exact ⟨progress, rests, found, by rw [pass, through]⟩

/-- **Passes from rest on**: each of them finds the arguments once more. -/
theorem Reader.passes_of_atRest {reader : Reader} {arguments : Arguments} {before : Nat}
    (rest : reader.progress.AtRest) (found : reader.progress.found = arguments.times before)
    (accepted : parse reader.text = .ok arguments) (count : Nat) :
    reader.passes count =
        (List.range count).map (fun more => .ok (arguments.times (before + more + 1))) ∧
      (reader.after count).progress.AtRest ∧
      (reader.after count).progress.found = arguments.times (before + count) := by
  induction count generalizing reader before with
  | zero => exact ⟨rfl, rest, found⟩
  | succ count ih =>
    obtain ⟨progress, rests, foundNow, passed⟩ := pass_of_atRest rest accepted
    rw [found, ← times_succ'] at foundNow
    have later := @ih { reader with progress := progress } (before + 1) rests foundNow accepted
    refine ⟨?_, ?_⟩
    · simp only [passes, passed, later.1, foundNow, List.range_succ_eq_map, List.map_cons,
        List.map_map]
      simp [Function.comp_def, Nat.add_assoc, Nat.add_comm 1]
    · rw [after, passed, ← Nat.add_assoc, Nat.add_right_comm]
      exact later.2

theorem parse_intercalate_replicate {text : String} {arguments : Arguments}
    (accepted : parse text = .ok arguments) (count : Nat) :
    parse (",".intercalate (List.replicate count text)) = .ok (arguments.times count) := by
  induction count with
  | zero => rfl
  | succ count ih =>
    cases count with
    | zero => simpa [times_succ] using accepted
    | succ count =>
      have joined : ",".intercalate (List.replicate (count + 2) text) =
          text ++ ','.toString ++ ",".intercalate (List.replicate (count + 1) text) :=
        String.intercalate_cons_cons
      rw [joined, parse_append_separator accepted (by decide), ih, times_succ _ (count + 1)]

/-- **A reader finds the same again in every pass.**  If its first pass over a text is
    accepted, then all passes are; after some of them each of the lists has been found so many
    times in a row, as in that many copies of the text with commas between them, and the
    reader stands between two tokens with no characters pending. -/
theorem passes_repeat_arguments {text : String} {arguments : Arguments}
    (first : (Reader.pass { text := text }).2 = .ok arguments) (count : Nat) :
    Reader.passes { text := text } count =
        (List.range count).map (fun earlier => .ok (arguments.times (earlier + 1))) ∧
      (Reader.after { text := text } count).progress.found = arguments.times count ∧
      parse (",".intercalate (List.replicate count text)) = .ok (arguments.times count) ∧
      (Reader.after { text := text } count).progress.mode = .between ∧
      (Reader.after { text := text } count).progress.pending = [] := by
  have starts : Progress.AtRest {} := ⟨rfl, rfl⟩
  obtain ⟨passed, rests, found⟩ :=
    @Reader.passes_of_atRest { text := text } arguments 0 starts rfl first count
  rw [Nat.zero_add] at found
  refine ⟨?_, found, parse_intercalate_replicate first count, rests.mode, rests.pending⟩
  simpa using passed

/-- A text that ends inside a symbol, read three times. -/
theorem passes_repeat_arguments_of_symbol :
    (Reader.pass { text := "1 'a' B" }).2 =
        .ok { integers := [1], strings := ["a"], symbols := ["B"] } ∧
      Reader.passes { text := "1 'a' B" } 2 =
        [.ok { integers := [1], strings := ["a"], symbols := ["B"] },
          .ok { integers := [1, 1], strings := ["a", "a"], symbols := ["B", "B"] }] ∧
      (Reader.after { text := "1 'a' B" } 2).progress.mode = .between :=
  have first : (Reader.pass { text := "1 'a' B" }).2 =
      .ok { integers := [1], strings := ["a"], symbols := ["B"] } := rfl
  have repeated := passes_repeat_arguments first 2
  ⟨first, repeated.1, repeated.2.2.2.1⟩

end FieldRules.Arguments
