/-
  FieldRules/Proofs/Rule/Joining.lean
  ===================================
  **Rule texts that are joined are read side by side.**

  Where two texts stand behind each other, with blanks and at most one comma
  between them, the sequence of the whole is the one sequence and then the
  other, with one more link.  So the splitter finds the invocations of both, in
  order, those of the second one further on by what stands before it; and as the
  arguments of each are read on their own, so are the rules.
-/
import FieldRules.Proofs.Rule.RoundTrip

namespace FieldRules

open FieldRules.Text
open FieldRules.Invocation (Link)

namespace Invocation

/-! ### Sequences side by side -/

/-- The invocation as it stands in a text that has so many characters more in front. -/
def shift (distance : Nat) (invocation : Invocation) : Invocation :=
  { invocation with offset := distance + invocation.offset }

section

variable {α : Type} (itemText : α → List Char)

/-- Two sequences with a link between them.  The outer blanks that meet become blanks
    of the link. -/
def Sequence.join (first : Sequence α) (link : Link) (second : Sequence α) : Sequence α where
  before := first.before
  first := first.first
  others := first.others ++
    (⟨first.after.append link.before, link.comma, link.after.append second.before⟩, second.first) ::
      second.others
  after := second.after

theorem followersText_append (others more : Followers α) :
    followersText itemText (others ++ more) =
      followersText itemText others ++ followersText itemText more :=
  List.flatMap_append

theorem placesFrom_append (position : Nat) (others more : Followers α) :
    placesFrom itemText position (others ++ more) =
      placesFrom itemText position others ++
        placesFrom itemText (position + (followersText itemText others).length) more := by
  induction others generalizing position with
  | nil => rfl
  | cons follower later ih =>
    obtain ⟨link, item⟩ := follower
    simp [placesFrom, ih, Nat.add_assoc]

theorem placesFrom_add (distance position : Nat) (others : Followers α) :
    placesFrom itemText (distance + position) others =
      (placesFrom itemText position others).map fun place => (distance + place.1, place.2) := by
  induction others generalizing position with
  | nil => rfl
  | cons follower later ih =>
    obtain ⟨link, item⟩ := follower
    simp [placesFrom, ih, Nat.add_assoc]

variable (first : Sequence α) (link : Link) (second : Sequence α)

theorem Sequence.text_join :
    (first.join link second).text itemText =
      first.text itemText ++ (link.text ++ second.text itemText) := by
  simp [Sequence.text, join, followersText_append, Link.text]

/-- **The items of both sequences**, those of the second one further on. -/
theorem Sequence.places_join :
    (first.join link second).places itemText =
      first.places itemText ++ (second.places itemText).map fun place =>
        ((first.text itemText ++ link.text).length + place.1, place.2) := by
  have tail := placesFrom_add itemText (first.text itemText ++ link.text).length
    (second.before.chars.length + (itemText second.first).length) second.others
  simp only [Sequence.text, Link.text, List.length_append, Nat.add_assoc] at tail
  simp only [Sequence.places, join, placesFrom_append, placesFrom, Sequence.text, Link.text,
    Run.chars_append, List.length_append, List.cons_append, List.map_cons, Nat.add_assoc, tail]

end

theorem Sequence.invocations_join (first : Sequence Written) (link : Link)
    (second : Sequence Written) :
    (first.join link second).invocations =
      first.invocations ++
        second.invocations.map (shift (first.text Written.text ++ link.text).length) := by
  rw [invocations, places_join, List.map_append, List.map_map]
  simp only [invocations, List.map_map]
  rfl

/-! ### Texts side by side -/

/-- **Joined texts are split side by side.** -/
theorem split_join {first second : String} (link : Link) {firsts seconds : List Invocation}
    (splitFirst : split first = .ok firsts) (splitSecond : split second = .ok seconds)
    (nonempty : firsts ≠ []) (nonempty' : seconds ≠ []) :
    split (first ++ String.ofList link.text ++ second) =
      .ok (firsts ++ seconds.map (shift (first ++ String.ofList link.text).length)) := by
  rw [split_eq_ok_iff_exists_sequence] at splitFirst splitSecond
  obtain ⟨source, sourceText, rfl⟩ := splitFirst.resolve_left fun blank => nonempty blank.1
  obtain ⟨source', sourceText', rfl⟩ := splitSecond.resolve_left fun blank => nonempty' blank.1
  have length : (source.text Written.text ++ link.text).length =
      (first ++ String.ofList link.text).length := by
    simp [sourceText, ← String.length_toList]
  refine split_eq_ok_iff_exists_sequence.mpr (.inr ⟨source.join link source', ?_, ?_⟩)
  · simp [Sequence.text_join, sourceText, sourceText']
  · rw [Sequence.invocations_join, length]

end Invocation

namespace Rule

/-- The rule as it stands in a text that has so many characters more in front. -/
def shift (distance : Nat) (rule : Rule) : Rule :=
  { rule with invocation := rule.invocation.shift distance }

theorem ofInvocation_shift (distance : Nat) (invocation : Invocation) :
    ofInvocation (invocation.shift distance) =
      (ofInvocation invocation).map (shift distance) := by
  unfold ofInvocation
  cases read : Arguments.parse invocation.arguments with
  | error fault => simp [Invocation.shift, read, Except.map]
  | ok arguments => simp [Invocation.shift, shift, read, Except.map]

theorem mapM_ofInvocation_shift (distance : Nat) (invocations : List Invocation) :
    (invocations.map (Invocation.shift distance)).mapM ofInvocation =
      (invocations.mapM ofInvocation).map (List.map (shift distance)) := by
  induction invocations with
  | nil => rfl
  | cons invocation later ih =>
    rw [List.map_cons, List.mapM_cons, List.mapM_cons, ih, ofInvocation_shift]
    cases ofInvocation invocation with
    | error fault => rfl
    | ok rule => cases later.mapM ofInvocation <;> rfl

/-- **Joined texts are read side by side**: as the rules of the first text and then
    those of the second, or with the first fault in the arguments of a rule. -/
theorem parse_join {first second : String} (link : Link) {firsts seconds : List Invocation}
    (splitFirst : Invocation.split first = .ok firsts)
    (splitSecond : Invocation.split second = .ok seconds)
    (nonempty : firsts ≠ []) (nonempty' : seconds ≠ []) :
    Rule.parse (first ++ String.ofList link.text ++ second) = do
      let rules ← Rule.parse first
      let others ← Rule.parse second
      return rules ++ others.map (shift (first ++ String.ofList link.text).length) := by
  have joined := Invocation.split_join link splitFirst splitSecond nonempty nonempty'
  rw [parse_of_split joined, parse_of_split splitFirst, parse_of_split splitSecond,
    List.mapM_append, mapM_ofInvocation_shift]
  cases firsts.mapM ofInvocation with
  | error fault => rfl
  | ok rules => cases seconds.mapM ofInvocation <;> rfl

end Rule

end FieldRules
