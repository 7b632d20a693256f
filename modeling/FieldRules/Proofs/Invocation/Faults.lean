/-
  FieldRules/Proofs/Invocation/Faults.lean
  ========================================
  **Where the faults in rule text are reported.**

  The splitter stops for one of two reasons.  Either it stands where an
  invocation has to begin and finds none, or only blanks follow a comma.  What
  it has passed by then is a front (`Front`): nothing, a sequence of
  invocations, or such a sequence and a comma.  One invocation more before a
  front gives a front (`Front.prepend`), so by induction on what is left of the
  text the two reasons come with all that was read before
  (`splitFrom_eq_error_cases`).

  The first fault stands on the character that begins no invocation.  The
  second one stands on the last character of the text, which is the comma only
  if no blank follows it.
-/
import FieldRules.Proofs.Invocation.Splitting

namespace FieldRules.Invocation

open FieldRules.Text

/-! ### What is read before a fault -/

def chainText (first : Written) (others : Followers Written) (after : Blanks) : List Char :=
  first.text ++ (followersText Written.text others ++ after.chars)

/-- What may stand before a place at which an invocation has to begin. -/
inductive Front : List Char → Prop
  | start : Front []
  | chain (first : Written) (others : Followers Written) (after : Blanks) :
    Front (chainText first others after)
  | comma (first : Written) (others : Followers Written) (after blanks : Blanks) :
    Front (chainText first others after ++ ',' :: blanks.chars)

theorem chainText_cons (first : Written) (link : Link) (next : Written)
    (others : Followers Written) (after : Blanks) :
    chainText first ((link, next) :: others) after =
      first.text ++ (link.text ++ chainText next others after) := by
  simp only [chainText, followersText_cons, List.append_assoc]

theorem Front.prepend {front : List Char} (reached : Front front) (first : Written) (link : Link) :
    Front (first.text ++ (link.text ++ front)) := by
  cases reached with
  | start =>
    obtain ⟨before, comma, after⟩ := link
    cases comma with
    | false => simpa [chainText] using Front.chain first [] (before.append after)
    | true => simpa [chainText] using Front.comma first [] before after
  | chain next others after =>
    rw [← chainText_cons]
    exact .chain first _ after
  | comma next others after blanks =>
    rw [← List.append_assoc link.text, ← List.append_assoc first.text, ← chainText_cons]
    exact .comma first _ after blanks

/-- At the place stands a character that is not blank, and nothing that begins
    there is an invocation. -/
def ExpectedAt (text : List Char) (place : Nat) : Prop :=
  ∃ front rest, text = front ++ rest ∧ Front front ∧ place = front.length ∧
    rest ≠ [] ∧ Stops isBlank rest ∧ head? rest = none

/-- The text ends in a comma and blanks after its invocations, and the place is
    the last one of the text. -/
def TrailingAt (text : List Char) (place : Nat) : Prop :=
  ∃ (first : Written) (others : Followers Written) (after blanks : Blanks),
    text = chainText first others after ++ ',' :: blanks.chars ∧
    place = (chainText first others after).length + blanks.chars.length

theorem ExpectedAt.prepend {text : List Char} {place : Nat} (expected : ExpectedAt text place)
    (first : Written) (link : Link) :
    ExpectedAt (first.text ++ (link.text ++ text))
      (first.text.length + (link.text.length + place)) := by
  obtain ⟨front, rest, rfl, reached, rfl, nonempty, stops, none⟩ := expected
  refine ⟨first.text ++ (link.text ++ front), rest, ?_, reached.prepend first link, ?_,
    nonempty, stops, none⟩
  · simp only [List.append_assoc]
  · simp only [List.length_append]

theorem TrailingAt.prepend {text : List Char} {place : Nat} (trailing : TrailingAt text place)
    (first : Written) (link : Link) :
    TrailingAt (first.text ++ (link.text ++ text))
      (first.text.length + (link.text.length + place)) := by
  obtain ⟨next, others, after, blanks, rfl, rfl⟩ := trailing
  refine ⟨first, (link, next) :: others, after, blanks, ?_, ?_⟩
  · simp only [chainText_cons, List.append_assoc]
  · simp only [chainText_cons, List.length_append, Nat.add_assoc]

/-- **The two ways in which a split stops**, with what was read before. -/
theorem splitFrom_eq_error_cases {position offset : Nat} {text : List Char}
    {problem : SyntaxProblem} (stops : Stops isBlank text)
    (stopped : splitFrom position text = .error (problem, offset)) :
    ∃ place, offset = position + place ∧
      ((problem = .expectedInvocation ∧ ExpectedAt text place) ∨
        (problem = .trailingSeparator ∧ TrailingAt text place)) := by
  -- on the length of the text, since what is left after an invocation is shorter
  induction bound : text.length using Nat.strongRecOn generalizing position text with
  | _ length ih =>
    subst bound
    by_cases nonempty : text = []
    · rw [nonempty, splitFrom_nil] at stopped
      cases stopped
    cases found : head? text with
    | none =>
      rw [splitFrom_of_head?_eq_none position nonempty found] at stopped
      cases stopped
      exact ⟨0, rfl, .inl ⟨rfl, [], text, rfl, .start, rfl, nonempty, stops, found⟩⟩
    | some head =>
      obtain ⟨blanks, first, rfl, stopsRest⟩ := exists_written_of_head?_of_stops stops found
      rcases splitFrom_cases position first blanks stopsRest with
        ⟨beyond, sameRest, fault⟩ | ⟨link, following, same, stopsFollowing, -, parts⟩
      · cases fault.symm.trans stopped
        refine ⟨first.text.length + blanks.chars.length + beyond.chars.length,
          by simp only [Nat.add_assoc], .inr ⟨rfl, first, [], blanks, beyond, ?_, ?_⟩⟩
        · simp [sameRest, chainText]
        · simp [chainText]
      · have later : splitFrom (position + first.text.length + link.text.length) following =
            .error (problem, offset) := by
          cases result : splitFrom (position + first.text.length + link.text.length) following with
          | ok invocations =>
            rw [result] at parts
            cases parts.symm.trans stopped
          | error fault =>
            rw [result] at parts
            cases parts.symm.trans stopped
            rfl
        rw [same] at ih ⊢
        have shorter : following.length < (first.text ++ (link.text ++ following)).length := by
          have := first.length_text_pos
          simp only [List.length_append]
          omega
        obtain ⟨place, rfl, ⟨expects, expected⟩ | ⟨trails, trailing⟩⟩ :=
          ih _ shorter stopsFollowing later rfl
        · exact ⟨_, by simp only [Nat.add_assoc], .inl ⟨expects, expected.prepend first link⟩⟩
        · exact ⟨_, by simp only [Nat.add_assoc], .inr ⟨trails, trailing.prepend first link⟩⟩

/-! ### The text before a fault -/

def Accepted (text : List Char) : Prop := ∃ invocations, split (String.ofList text) = .ok invocations

def Blank (text : List Char) : Prop := ∀ c ∈ text, isBlank c = true

/-- A text that is accepted and has more than blanks in it. -/
structure Filled (text : List Char) : Prop where
  accepted : Accepted text
  notBlank : ¬ Blank text

theorem filled_chainText (before : Blanks) (first : Written) (others : Followers Written)
    (after : Blanks) : Filled (before.chars ++ chainText first others after) := by
  constructor
  · refine ⟨_, split_eq_ok_iff_exists_sequence.mpr
      (.inr ⟨⟨before, first, others, after⟩, ?_, rfl⟩)⟩
    rw [String.toList_ofList]
    rfl
  · intro blank
    obtain ⟨c, more, letter, name⟩ := exists_run_of_isName first.isName
    have member : c ∈ before.chars ++ chainText first others after := by
      simp [chainText, Written.text, name]
    have notBlank := isBlank_of_isNameChar (isNameChar_of_isLetter letter)
    rw [blank c member] at notBlank
    cases notBlank

theorem Front.blank_or_filled {front : List Char} (reached : Front front) (before : Blanks) :
    Blank (before.chars ++ front) ∨
      ∃ (text : List Char) (ending : List Char), before.chars ++ front = text ++ ending ∧
        Filled text ∧ (ending = [] ∨ ∃ blanks : Blanks, ending = ',' :: blanks.chars) := by
  cases reached with
  | start =>
    left
    rw [List.append_nil]
    exact before.all
  | chain first others after =>
    exact .inr ⟨_, [], (List.append_nil _).symm, filled_chainText before first others after,
      .inl rfl⟩
  | comma first others after blanks =>
    exact .inr ⟨_, ',' :: blanks.chars, (List.append_assoc _ _ _).symm,
      filled_chainText before first others after, .inr ⟨blanks, rfl⟩⟩

/-- Nothing that stands where no invocation was found is one, also after blanks. -/
theorem not_prefix_of_head?_eq_none {rest : List Char} (none : head? rest = none)
    (before : Blanks) (written : Written) : ¬ before.chars ++ written.text <+: rest := by
  rintro ⟨after, rfl⟩
  rw [List.append_assoc, head?_append] at none
  cases none

/-! ### Where faults are reported -/

theorem split_eq_error_iff_splitFrom {text : String} {fault : SyntaxFault} {before : Blanks}
    {rest : List Char} (same : text.toList = before.chars ++ rest) (stops : Stops isBlank rest) :
    split text = .error fault ↔
      fault.text = text ∧
        splitFrom before.chars.length rest = .error (fault.problem, fault.offset) := by
  have trimmed : trimStart text.toList = rest := by rw [same, trimStart_append before stops]
  have position : text.toList.length - rest.length = before.chars.length := by simp [same]
  unfold split
  simp only [trimmed, position]
  constructor
  · intro rejected
    split at rejected
    · cases rejected
    · next stopped =>
      cases rejected
      exact ⟨rfl, stopped⟩
  · rintro ⟨rfl, stopped⟩
    rw [stopped]

theorem getElem?_comma_iff (blanks : Blanks) :
    (',' :: blanks.chars)[blanks.chars.length]? = some ',' ↔ blanks.chars = [] := by
  constructor
  · intro comma
    rcases blanks.eq_empty_or_eq_cons with rfl | ⟨c, blank, more, rfl⟩
    · rfl
    · rw [Run.chars_cons, List.length_cons, List.getElem?_cons_succ, ← Run.chars_cons c blank] at comma
      have isBlankComma := (Run.cons c blank more).all ',' (List.mem_of_getElem? comma)
      exact absurd isBlankComma (by decide)
  · intro none
    rw [none]
    rfl

/-- **Where a fault stands.**  Its offset is that of a character of the text.  If
    an invocation is missing, then this character is not blank, no invocation
    begins there, and the text before it is blank or it is an accepted text that
    is not, which a comma and blanks may follow.  If a separator trails, then the
    text is such an accepted text with a comma and blanks, and the offset is that
    of the last of these characters: the comma exactly if no blank follows. -/
theorem fault_stands_at {text : String} {fault : SyntaxFault}
    (rejected : split text = .error fault) :
    fault.offset < text.toList.length ∧
      ((fault.problem = .expectedInvocation ∧
          (∃ c, text.toList[fault.offset]? = some c ∧ isBlank c = false) ∧
          (Blank (text.toList.take fault.offset) ∨
            ∃ front ending, text.toList.take fault.offset = front ++ ending ∧ Filled front ∧
              (ending = [] ∨ ∃ blanks : Blanks, ending = ',' :: blanks.chars)) ∧
          ∀ (before : Blanks) (written : Written),
            ¬ before.chars ++ written.text <+: text.toList.drop fault.offset) ∨
        (fault.problem = .trailingSeparator ∧
          ∃ (front : List Char) (blanks : Blanks),
            text.toList = front ++ ',' :: blanks.chars ∧ Filled front ∧
            fault.offset = front.length + blanks.chars.length ∧
            (text.toList[fault.offset]? = some ',' ↔ blanks.chars = []))) := by
  obtain ⟨before, same⟩ := exists_blanks_trimStart text.toList
  have stops := stops_trimStart text.toList
  obtain ⟨-, stopped⟩ := (split_eq_error_iff_splitFrom same stops).mp rejected
  obtain ⟨place, offset, ⟨problem, expected⟩ | ⟨problem, trailing⟩⟩ :=
    splitFrom_eq_error_cases stops stopped
  · obtain ⟨front, rest, cut, reached, rfl, nonempty, stopsRest, none⟩ := expected
    have whole : text.toList = (before.chars ++ front) ++ rest := by
      rw [same, cut, List.append_assoc]
    have length : fault.offset = (before.chars ++ front).length := by
      rw [offset, List.length_append]
    obtain ⟨c, later, rfl⟩ := List.exists_cons_of_ne_nil nonempty
    rw [whole, length, List.take_left, List.drop_left]
    refine ⟨?_, .inl ⟨problem, ⟨c, ?_, stops_cons.mp stopsRest⟩, reached.blank_or_filled before,
      not_prefix_of_head?_eq_none none⟩⟩
    · simp only [List.length_append, List.length_cons]
      omega
    · rw [List.getElem?_append_right (Nat.le_refl _), Nat.sub_self]
      rfl
  · obtain ⟨first, others, after, blanks, cut, rfl⟩ := trailing
    have filled := filled_chainText before first others after
    have whole : text.toList =
        (before.chars ++ chainText first others after) ++ ',' :: blanks.chars := by
      rw [same, cut, List.append_assoc]
    have length : fault.offset =
        (before.chars ++ chainText first others after).length + blanks.chars.length := by
      rw [offset, List.length_append, Nat.add_assoc]
    refine ⟨?_, .inr ⟨problem, _, blanks, whole, filled, length, ?_⟩⟩
    · rw [whole, length]
      simp only [List.length_append, List.length_cons]
      omega
    · rw [whole, length, List.getElem?_append_right (Nat.le_add_right _ _), Nat.add_sub_cancel_left]
      exact getElem?_comma_iff blanks

theorem split_of_comma_and_blank :
    split "max(1), " = .error ⟨.trailingSeparator, "max(1), ", 7⟩ := by
  let written : Written := ⟨['m', 'a', 'x'], by decide, Run.empty, [.plain '1' (by decide)]⟩
  let blank : Blanks := Run.cons ' ' (by decide) Run.empty
  have same : "max(1), ".toList = (Run.empty : Blanks).chars ++
      (written.text ++ ((Run.empty : Blanks).chars ++ ',' :: (blank.chars ++ []))) := by decide
  refine (split_eq_error_iff_splitFrom same (written.stops_text _)).mpr ⟨rfl, ?_⟩
  rw [splitFrom_append_comma _ written Run.empty blank stops_nil, if_pos rfl]
  rfl

/-- A comma and a blank after an invocation: the fault stands on the blank. -/
theorem fault_stands_at_blank_after_comma :
    split "max(1), " = .error ⟨.trailingSeparator, "max(1), ", 7⟩ ∧
      ∃ (front : List Char) (blanks : Blanks),
        "max(1), ".toList = front ++ ',' :: blanks.chars ∧ Filled front ∧
        7 = front.length + blanks.chars.length ∧
        ("max(1), ".toList[7]? = some ',' ↔ blanks.chars = []) := by
  refine ⟨split_of_comma_and_blank, ?_⟩
  obtain ⟨-, ⟨expects, -⟩ | ⟨-, trailing⟩⟩ := fault_stands_at split_of_comma_and_blank
  · cases expects
  · exact trailing

/-- Not every fault stands on a character that shows, nor a trailing separator
    always on the separator. -/
theorem not_every_fault_stands_on_its_character :
    ¬ ∀ (text : String) (fault : SyntaxFault), split text = .error fault →
      ∃ c, text.toList[fault.offset]? = some c ∧ isBlank c = false ∧
        (fault.problem = .trailingSeparator → c = ',') := by
  intro stands
  obtain ⟨c, found, shows, -⟩ := stands _ _ split_of_comma_and_blank
  obtain rfl : c = ' ' := (Option.some.inj found).symm
  exact absurd shows (by decide)

end FieldRules.Invocation
