/-
  FieldRules/Proofs/Rule/Rendering.lean
  =====================================
  **An invocation is read back from its printed form.**

  The printed form of an invocation has its arguments between parentheses.  They
  are the body that was taken from a longer text, without outer blanks, and what
  is left is a body again: blanks never belong to a quotation at the edge of a
  body, as that begins and ends with a quote (`exists_bodyText_eq_trim`).  So the
  parentheses close where they closed before, whatever stands between them.
-/
import FieldRules.Proofs.Invocation.Splitting
import FieldRules.Proofs.Result
import FieldRules.Rule
import Mathlib.Data.List.Induction

namespace FieldRules

open FieldRules.Text

/-! ### Trimmed text -/

namespace Text

theorem dropWhile_of_stops {test : Char → Bool} {text : List Char} (stops : Stops test text) :
    text.dropWhile test = text :=
  Run.empty.dropWhile_append stops

theorem stops_trim (text : List Char) : Stops isBlank (trim text) := by
  have stops := stops_trimStart text
  obtain ⟨rest, whole⟩ : trim text <+: trimStart text :=
    List.reverse_suffix.mp (by simpa [trim, trimEnd] using List.dropWhile_suffix _)
  rw [← whole] at stops
  cases trimmed : trim text with
  | nil => exact stops_nil
  | cons c more =>
    rw [trimmed] at stops
    exact stops

/-- Trimmed text has nothing left to trim. -/
theorem trim_trim (text : List Char) : trim (trim text) = trim text := by
  have ends : Stops isBlank (trim text).reverse := by
    simp only [trim, trimEnd, List.reverse_reverse]
    exact Run.stops_dropWhile _
  rw [trim, trimStart, dropWhile_of_stops (stops_trim text), trimEnd, dropWhile_of_stops ends,
    List.reverse_reverse]

end Text

/-! ### Bodies -/

namespace Invocation

variable {body : List Piece} {rest : List Char}

theorem exists_bodyText_of_cons {c : Char} (blank : isBlank c = true)
    (same : bodyText body = c :: rest) : ∃ more, bodyText more = rest := by
  cases body with
  | nil => cases same
  | cons piece later =>
    cases piece with
    | plain d free => exact ⟨later, (List.cons.inj same).2⟩
    | quoted content unbroken =>
      obtain ⟨rfl, -⟩ := List.cons.inj same
      exact absurd blank (by decide)

theorem exists_bodyText_of_concat {c : Char} (blank : isBlank c = true)
    (same : bodyText body = rest ++ [c]) : ∃ more, bodyText more = rest := by
  cases body using List.reverseRecOn with
  | nil => simp at same
  | append_singleton earlier piece =>
    cases piece with
    | plain d free =>
      have split : bodyText earlier ++ [d] = rest ++ [c] := by simpa [Piece.text] using same
      exact ⟨earlier, (List.append_inj' split rfl).1⟩
    | quoted content unbroken =>
      have split : (bodyText earlier ++ quoteMark :: quotedText content) ++ [quoteMark] =
          rest ++ [c] := by
        simpa [Piece.text, quotation] using same
      obtain rfl : quoteMark = c := List.singleton_inj.mp (List.append_inj' split rfl).2
      exact absurd blank (by decide)

theorem exists_bodyText_of_blanks_append (blanks : Blanks)
    (same : bodyText body = blanks.chars ++ rest) : ∃ more, bodyText more = rest := by
  obtain ⟨chars, all⟩ := blanks
  induction chars generalizing body with
  | nil => exact ⟨body, same⟩
  | cons c later ih =>
    rw [List.forall_mem_cons] at all
    obtain ⟨more, isLater⟩ := exists_bodyText_of_cons all.1 same
    exact ih all.2 isLater

theorem exists_bodyText_of_append_blanks (blanks : Blanks)
    (same : bodyText body = rest ++ blanks.chars) : ∃ more, bodyText more = rest := by
  obtain ⟨chars, all⟩ := blanks
  induction chars using List.reverseRecOn generalizing body with
  | nil => exact ⟨body, by simpa using same⟩
  | append_singleton earlier c ih =>
    have split : bodyText body = (rest ++ earlier) ++ [c] := by simpa using same
    obtain ⟨more, isEarlier⟩ := exists_bodyText_of_concat (all c (by simp)) split
    exact ih (fun d member => all d (List.mem_append_left _ member)) isEarlier

/-- **A body without its outer blanks is a body.** -/
theorem exists_bodyText_eq_trim (body : List Piece) :
    ∃ trimmed, bodyText trimmed = trim (bodyText body) := by
  obtain ⟨before, after, same⟩ := exists_blanks_trim (bodyText body)
  obtain ⟨more, isRest⟩ := exists_bodyText_of_blanks_append before same
  exact exists_bodyText_of_append_blanks after isRest

/-- **The printed form of an invocation is split into this invocation alone**, at its start. -/
theorem split_render {text : String} {invocations : List Invocation} {invocation : Invocation}
    (accepted : split text = .ok invocations) (member : invocation ∈ invocations) :
    split invocation.render = .ok [{ invocation with offset := 0 }] := by
  obtain ⟨written, -, located⟩ := exists_written_of_mem_split accepted member
  obtain ⟨trimmed, isTrimmed⟩ := exists_bodyText_eq_trim written.body
  let printed : Written := ⟨written.name, written.isName, Run.empty, trimmed⟩
  have isText : String.ofList printed.text = invocation.render := by
    rw [← located, ← String.toList_inj]
    simp [printed, Written.text, Written.located, render, isTrimmed]
  have isInvocation : printed.located 0 = { invocation with offset := 0 } := by
    rw [← located]
    simp [printed, Written.located, isTrimmed, trim_trim]
  rw [← isText, ← isInvocation]
  exact split_text_alone printed

end Invocation

/-! ### Rules -/

namespace Rule

variable {text : String} {rules : List Rule} {rule : Rule}

theorem exists_split_of_mem_parse (read : parse text = .ok rules) (member : rule ∈ rules) :
    (∃ invocations, Invocation.split text = .ok invocations ∧ rule.invocation ∈ invocations) ∧
      Arguments.parse rule.invocation.arguments = .ok rule.arguments := by
  obtain ⟨invocations, split, each⟩ := bind_eq_ok_iff.mp read
  obtain ⟨invocation, isInvocation, reads⟩ :=
    exists_left_of_forall₂ (mapM_eq_ok_iff.mp each) member
  obtain ⟨arguments, isRead, rfl⟩ := map_eq_ok_iff.mp reads
  exact ⟨⟨invocations, split, isInvocation⟩, isRead⟩

theorem isName_of_mem_parse (read : parse text = .ok rules) (member : rule ∈ rules) :
    Name.isName rule.name.toList = true := by
  obtain ⟨⟨invocations, split, isInvocation⟩, -⟩ := exists_split_of_mem_parse read member
  obtain ⟨written, -, located⟩ := Invocation.exists_written_of_mem_split split isInvocation
  rw [name, ← located]
  simpa [Invocation.Written.located] using written.isName

/-- What is read from the printed form of an invocation is what is read from its arguments. -/
theorem parse_render_eq {invocations : List Invocation} {invocation : Invocation}
    (accepted : Invocation.split text = .ok invocations) (member : invocation ∈ invocations) :
    parse invocation.render =
      (Arguments.parse invocation.arguments).map fun arguments =>
        [⟨{ invocation with offset := 0 }, arguments⟩] := by
  rw [parse, Invocation.split_render accepted member]
  cases read : Arguments.parse invocation.arguments with
  | error fault => simp [bind, Except.bind, ofInvocation, read, Except.map]
  | ok arguments => simp [bind, Except.bind, ofInvocation, read, Except.map, pure, Except.pure]

/-- **A rule is read back from its printed form**, at its start. -/
theorem parse_render (read : parse text = .ok rules) (member : rule ∈ rules) :
    parse rule.invocation.render = .ok [{ rule with invocation.offset := 0 }] := by
  obtain ⟨⟨invocations, split, isInvocation⟩, isRead⟩ := exists_split_of_mem_parse read member
  rw [parse_render_eq split isInvocation, isRead]
  rfl

/-- **The printed form of an invocation reads back to it**, whatever stands in its
    arguments.  Of every text that is split, each invocation is printed as a text that is
    split into this invocation alone, at its start, with its name and its arguments; and
    the rules of the printed form are this one rule with the arguments that are read from
    its argument text, or the fault that reading them ends in. -/
theorem printed_invocation_reads_back {invocations : List Invocation} {invocation : Invocation}
    (accepted : Invocation.split text = .ok invocations) (member : invocation ∈ invocations) :
    Invocation.split invocation.render =
        .ok [{ name := invocation.name, arguments := invocation.arguments, offset := 0 }] ∧
      (∀ arguments, Arguments.parse invocation.arguments = .ok arguments →
        parse invocation.render =
          .ok [⟨{ name := invocation.name, arguments := invocation.arguments, offset := 0 },
            arguments⟩]) ∧
      ∀ fault, Arguments.parse invocation.arguments = .error fault →
        parse invocation.render = .error fault := by
  refine ⟨Invocation.split_render accepted member, ?_, ?_⟩
  · intro arguments read
    rw [parse_render_eq accepted member, read]
    rfl
  · intro fault read
    rw [parse_render_eq accepted member, read]
    rfl

/-- A quoted parenthesis, an escaped quote, a line feed and a character that no argument has
    are all kept. -/
theorem printed_invocation_reads_back_of_stray_letter :
    ∃ invocations, Invocation.split "max(1)\tin ( '\\')' ,\né )" = .ok invocations ∧
      ⟨"in", "'\\')' ,\né", 7⟩ ∈ invocations ∧
      Invocation.split "in('\\')' ,\né)" = .ok [⟨"in", "'\\')' ,\né", 0⟩] ∧
      parse "in('\\')' ,\né)" =
        .error ⟨.unexpectedCharacter 'é', "'\\')' ,\né", 8⟩ := by
  have accepted : Invocation.split "max(1)\tin ( '\\')' ,\né )" =
      .ok [⟨"max", "1", 0⟩, ⟨"in", "'\\')' ,\né", 7⟩] := by
    decide +kernel
  have refused : Arguments.parse "'\\')' ,\né" =
      .error ⟨.unexpectedCharacter 'é', "'\\')' ,\né", 8⟩ := by
    decide +kernel
  have member : (⟨"in", "'\\')' ,\né", 7⟩ : Invocation) ∈
      [⟨"max", "1", 0⟩, ⟨"in", "'\\')' ,\né", 7⟩] := by
    decide
  obtain ⟨alone, -, fails⟩ := printed_invocation_reads_back accepted member
  exact ⟨_, accepted, member, alone, fails _ refused⟩

end Rule

end FieldRules
