/-
  FieldRules/Proofs/Invocation/Splitting.lean
  ===========================================
  **The splitter accepts exactly the sequences of invocations.**

  The splitter takes a body by a scan that knows whether it stands outside of
  quotations, in one, or after a backslash in one; the written form cuts a body
  into pieces.  `takeBody_eq_some_iff` says that the two agree.  From it follow
  one statement for each layer above: what is found at the head of a text
  (`head?_append`, `exists_written_of_head?`), and what a whole text is split
  into (`splitFrom_chain`, `exists_chain_of_splitFrom`).
-/
import FieldRules.Proofs.Invocation.Written
import FieldRules.Proofs.Result

namespace FieldRules.Invocation

open FieldRules.Text

/-! ### Taking a body -/

/-- The characters end a body from a place on: the rest of a quotation, if the
    place is inside of one, and pieces. -/
def Ends (place : Place) (ending : List Char) : Prop :=
  match place with
  | .outside => ∃ body : List Piece, ending = bodyText body
  | .inside =>
    ∃ (content : List QuotedChar) (body : List Piece), (∀ unit ∈ content, unit ≠ .escaped '\n') ∧
      ending = quotedText content ++ quoteMark :: bodyText body
  | .escaped =>
    ∃ (c : Char) (content : List QuotedChar) (body : List Piece), c ≠ '\n' ∧
      (∀ unit ∈ content, unit ≠ .escaped '\n') ∧
      ending = c :: (quotedText content ++ quoteMark :: bodyText body)

/-- Where a character was put in front of a body, the others were taken before. -/
theorem exists_tail_of_map_cons {place : Place} {c : Char} {rest body after : List Char}
    (taken : (takeBody place rest).map (fun (tail, after) => (c :: tail, after)) =
      some (body, after)) :
    ∃ tail, takeBody place rest = some (tail, after) ∧ body = c :: tail := by
  obtain ⟨⟨tail, _⟩, found, same⟩ := Option.map_eq_some_iff.mp taken
  obtain ⟨rfl, rfl⟩ := Prod.mk.inj same
  exact ⟨tail, found, rfl⟩

/-- A body that is taken ends the body from its place on, and stands before a
    closing parenthesis. -/
theorem ends_of_takeBody {place : Place} {text body after : List Char}
    (taken : takeBody place text = some (body, after)) :
    Ends place body ∧ text = body ++ ')' :: after := by
  induction text generalizing place body with
  | nil => simp [takeBody] at taken
  | cons c rest ih =>
    cases place with
    | outside =>
      simp only [takeBody] at taken
      split at taken
      · next closing =>
        obtain ⟨rfl, rfl⟩ := Prod.mk.inj (Option.some.inj taken)
        exact ⟨⟨[], rfl⟩, by simp [eq_of_beq closing]⟩
      · next open' =>
        obtain ⟨tail, found, rfl⟩ := exists_tail_of_map_cons taken
        obtain ⟨ends, rfl⟩ := ih found
        refine ⟨?_, rfl⟩
        by_cases quote : c = quoteMark
        · subst quote
          obtain ⟨content, pieces, unbroken, rfl⟩ := ends
          exact ⟨.quoted content unbroken :: pieces, by simp [Piece.text, quotation]⟩
        · simp only [beq_iff_eq, quote, if_false] at ends
          obtain ⟨pieces, rfl⟩ := ends
          exact ⟨.plain c ⟨by simpa using open', quote⟩ :: pieces, rfl⟩
    | inside =>
      obtain ⟨tail, found, rfl⟩ := exists_tail_of_map_cons taken
      obtain ⟨ends, rfl⟩ := ih found
      refine ⟨?_, rfl⟩
      by_cases quote : c = quoteMark
      · subst quote
        obtain ⟨pieces, rfl⟩ := ends
        exact ⟨[], pieces, by simp, rfl⟩
      · by_cases escape : c = escapeMark
        · subst escape
          obtain ⟨d, content, pieces, unbroken, others, rfl⟩ := ends
          exact ⟨.escaped d :: content, pieces, by simpa using ⟨unbroken, others⟩, rfl⟩
        · simp only [beq_iff_eq, quote, escape, if_false] at ends
          obtain ⟨content, pieces, others, rfl⟩ := ends
          exact ⟨.plain c ⟨quote, escape⟩ :: content, pieces, by simpa using others, rfl⟩
    | escaped =>
      simp only [takeBody] at taken
      split at taken
      · cases taken
      · next unbroken =>
        obtain ⟨tail, found, rfl⟩ := exists_tail_of_map_cons taken
        obtain ⟨⟨content, pieces, others, rfl⟩, rfl⟩ := ih found
        exact ⟨⟨c, content, pieces, by simpa using unbroken, others, rfl⟩, rfl⟩

theorem takeBody_quotedText {content : List QuotedChar} (rest : List Char)
    (unbroken : ∀ unit ∈ content, unit ≠ .escaped '\n') :
    takeBody .inside (quotedText content ++ quoteMark :: rest) =
      (takeBody .outside rest).map fun taken =>
        (quotedText content ++ quoteMark :: taken.1, taken.2) := by
  induction content with
  | nil => simp [takeBody]
  | cons unit content ih =>
    have others := ih fun unit member => unbroken unit (.tail _ member)
    cases unit with
    | plain c free => simp [takeBody, free, others, Function.comp_def]
    | escaped c =>
      have notBroken : c ≠ '\n' := fun broken => unbroken _ List.mem_cons_self (broken ▸ rfl)
      have notQuote : escapeMark ≠ quoteMark := by decide
      simp [takeBody, notQuote, notBroken, others, Function.comp_def]

/-- The scan takes all pieces up to a closing parenthesis after them. -/
theorem takeBody_bodyText (body : List Piece) (after : List Char) :
    takeBody .outside (bodyText body ++ ')' :: after) = some (bodyText body, after) := by
  induction body with
  | nil => rfl
  | cons piece later ih =>
    cases piece with
    | plain c free => simp [takeBody, Piece.text, free, ih]
    | quoted content unbroken =>
      have notClosing : quoteMark ≠ ')' := by decide
      have taken := takeBody_quotedText (bodyText later ++ ')' :: after) unbroken
      simp [takeBody, Piece.text, quotation, notClosing, taken, ih]

/-- **The body that is taken is made of pieces, and all pieces are taken.** -/
theorem takeBody_eq_some_iff {text body after : List Char} :
    takeBody .outside text = some (body, after) ↔
      ∃ pieces : List Piece, body = bodyText pieces ∧ text = bodyText pieces ++ ')' :: after := by
  constructor
  · intro taken
    obtain ⟨⟨pieces, rfl⟩, same⟩ := ends_of_takeBody taken
    exact ⟨pieces, rfl, same⟩
  · rintro ⟨pieces, rfl, rfl⟩
    exact takeBody_bodyText pieces after

/-! ### The invocation at the head of a text -/

theorem isBlank_of_isNameChar {c : Char} (h : Name.isNameChar c = true) : isBlank c = false := by
  have bounds := Name.toNat_of_isNameChar h
  exact isBlank_eq_false (by omega) (by omega)

theorem isNameChar_of_isLetter {c : Char} (letter : Name.isLetter c = true) :
    Name.isNameChar c = true := by
  rw [Name.isLetter_eq] at letter
  rw [Name.isNameChar_eq, letter, Bool.true_or, Bool.true_or]

theorem exists_run_of_isName {name : List Char} (isName : Name.isName name = true) :
    ∃ (first : Char) (more : Run Name.isNameChar),
      Name.isLetter first = true ∧ name = first :: more.chars := by
  cases name with
  | nil => simp [Name.isName] at isName
  | cons first more =>
    simp only [Name.isName, Bool.and_eq_true, List.all_eq_true] at isName
    exact ⟨first, ⟨more, isName.2⟩, isName.1, rfl⟩

theorem stops_gap (gap : Blanks) (rest : List Char) :
    Stops Name.isNameChar (gap.chars ++ '(' :: rest) := by
  rcases gap.eq_empty_or_eq_cons with rfl | ⟨c, blank, more, rfl⟩
  · exact stops_cons.mpr (by decide)
  · refine stops_cons.mpr (Bool.eq_false_iff.mpr fun nameChar => ?_)
    simp [isBlank_of_isNameChar nameChar] at blank

namespace Written

theorem stops_text (written : Written) (rest : List Char) :
    Stops isBlank (written.text ++ rest) := by
  obtain ⟨first, more, letter, same⟩ := exists_run_of_isName written.isName
  rw [text, same]
  exact stops_cons.mpr (isBlank_of_isNameChar (isNameChar_of_isLetter letter))

theorem length_text_pos (written : Written) : 0 < written.text.length := by
  simp only [text, List.length_append, List.length_cons]
  omega

/-- **An invocation is cut off a text in one way only**: no other name, body or
    end could be read at the same place. -/
theorem text_append_inj {first second : Written} {rest other : List Char}
    (same : first.text ++ rest = second.text ++ other) : first = second ∧ rest = other := by
  obtain ⟨name, isName, gap, body⟩ := first
  obtain ⟨name', isName', gap', body'⟩ := second
  obtain ⟨c, more, letter, rfl⟩ := exists_run_of_isName isName
  obtain ⟨d, more', letter', rfl⟩ := exists_run_of_isName isName'
  simp only [text, List.cons_append, List.append_assoc, List.cons.injEq, List.nil_append] at same
  obtain ⟨rfl, same⟩ := same
  obtain ⟨rfl, sameGap⟩ := Run.append_inj same (stops_gap gap _) (stops_gap gap' _)
  obtain ⟨rfl, sameBody⟩ := Run.append_inj sameGap (stops_cons.mpr rfl) (stops_cons.mpr rfl)
  obtain ⟨rfl, sameRest⟩ := bodyText_inj (List.cons.inj sameBody).2
  exact ⟨rfl, sameRest⟩

end Written

/-- What is found at the head of a text that begins with blanks and an
    invocation: all the parts of the invocation, and the text after it. -/
theorem head?_append (before : Blanks) (written : Written) (rest : List Char) :
    head? (before.chars ++ (written.text ++ rest)) =
      some { blanks := before.chars.length, name := written.name, body := bodyText written.body
             rest := trimStart rest } := by
  have trimmed := trimStart_append before (written.stops_text rest)
  obtain ⟨name, isName, gap, body⟩ := written
  obtain ⟨c, more, letter, rfl⟩ := exists_run_of_isName isName
  simp only [Written.text, List.cons_append, List.append_assoc, List.nil_append] at trimmed ⊢
  have stops := stops_gap gap (bodyText body ++ ')' :: rest)
  have opening : trimStart (gap.chars ++ '(' :: (bodyText body ++ ')' :: rest)) =
      '(' :: (bodyText body ++ ')' :: rest) :=
    trimStart_append gap (stops_cons.mpr (by decide))
  unfold head?
  simp only [trimmed, letter, if_true, more.takeWhile_append stops, more.dropWhile_append stops,
    opening, takeBody_bodyText, Option.map_some]
  simp

/-- What is found at the head of a text is an invocation that the text begins
    with, between blanks. -/
theorem exists_written_of_head? {text : List Char} {head : Head} (found : head? text = some head) :
    ∃ (before after : Blanks) (written : Written),
      text = before.chars ++ (written.text ++ (after.chars ++ head.rest)) ∧
      Stops isBlank head.rest := by
  obtain ⟨before, same⟩ := exists_blanks_trimStart text
  unfold head? at found
  split at found
  · cases found
  · next c rest trimmed =>
    split at found
    · next letter =>
      split at found
      · next inner opened =>
        obtain ⟨⟨_, following⟩, taken, rfl⟩ := Option.map_eq_some_iff.mp found
        obtain ⟨body, rfl, rfl⟩ := takeBody_eq_some_iff.mp taken
        let more : Run Name.isNameChar := Run.leading Name.isNameChar rest
        obtain ⟨gap, gapSame⟩ := exists_blanks_trimStart (rest.dropWhile Name.isNameChar)
        obtain ⟨after, afterSame⟩ := exists_blanks_trimStart following
        have isName : Name.isName (c :: more.chars) = true := by
          simpa [Name.isName, letter] using more.all
        refine ⟨before, after, ⟨c :: more.chars, isName, gap, body⟩, ?_, stops_trimStart following⟩
        have nameSame : more.chars ++ rest.dropWhile Name.isNameChar = rest :=
          Run.leading_append_dropWhile rest
        rw [same, trimmed, ← nameSame, gapSame, opened, ← afterSame]
        simp [Written.text, more]
      · cases found
    · cases found

theorem exists_written_of_head?_of_stops {text : List Char} {head : Head}
    (stops : Stops isBlank text) (found : head? text = some head) :
    ∃ (after : Blanks) (written : Written),
      text = written.text ++ (after.chars ++ head.rest) ∧ Stops isBlank head.rest := by
  obtain ⟨before, after, written, same, stopsRest⟩ := exists_written_of_head? found
  have sameRest : (Run.empty : Blanks).chars ++ text =
      before.chars ++ (written.text ++ (after.chars ++ head.rest)) := same
  obtain ⟨-, noBlanks⟩ := Run.append_inj sameRest stops (written.stops_text _)
  exact ⟨after, written, noBlanks, stopsRest⟩

/-! ### The invocations of a text -/

theorem splitFrom_nil (position : Nat) : splitFrom position [] = .ok [] := by
  rw [splitFrom]
  rfl

theorem splitFrom_of_head?_eq_none {text : List Char} (position : Nat) (nonempty : text ≠ [])
    (none : head? text = none) :
    splitFrom position text = .error (.expectedInvocation, position) := by
  rw [splitFrom, if_neg (by simpa using nonempty)]
  split
  · rfl
  · next found => cases none.symm.trans found

section AfterInvocation

variable (position : Nat) (written : Written) (blanks : Blanks)

/-- An invocation that no comma follows is the first one, and the split goes on
    after the blanks. -/
theorem splitFrom_append {rest : List Char} (stops : Stops isBlank rest)
    (noComma : ∀ tail, rest ≠ ',' :: tail) :
    splitFrom position (written.text ++ (blanks.chars ++ rest)) =
      (splitFrom (position + written.text.length + blanks.chars.length) rest).map
        (written.located position :: ·) := by
  have found := head?_append Run.empty written (blanks.chars ++ rest)
  rw [trimStart_append blanks stops, Run.chars_empty, List.nil_append] at found
  rw [splitFrom, if_neg (by simp [Written.text])]
  split
  · next none => cases none.symm.trans found
  · next head some =>
    obtain rfl := Option.some.inj (some.symm.trans found)
    split
    · next tail comma => exact absurd comma (noComma tail)
    · have reached : position + ((written.text ++ (blanks.chars ++ rest)).length - rest.length) =
          position + written.text.length + blanks.chars.length := by
        simp only [List.length_append]
        omega
      simp only [reached]
      rfl

/-- Of an invocation that a comma follows the split goes on after the comma and
    the blanks around it, if anything stands there. -/
theorem splitFrom_append_comma (blanks' : Blanks) {rest : List Char} (stops : Stops isBlank rest) :
    splitFrom position (written.text ++ (blanks.chars ++ ',' :: (blanks'.chars ++ rest))) =
      if rest = [] then
        .error (.trailingSeparator, position + written.text.length + blanks.chars.length + 1 +
          blanks'.chars.length - 1)
      else
        (splitFrom (position + written.text.length + blanks.chars.length + 1 +
          blanks'.chars.length) rest).map (written.located position :: ·) := by
  have found := head?_append Run.empty written (blanks.chars ++ ',' :: (blanks'.chars ++ rest))
  rw [trimStart_append blanks (stops_cons.mpr (by decide)), Run.chars_empty,
    List.nil_append] at found
  have following : trimStart (blanks'.chars ++ rest) = rest := trimStart_append blanks' stops
  rw [splitFrom, if_neg (by simp [Written.text])]
  split
  · next none => cases none.symm.trans found
  · next head some =>
    obtain rfl := Option.some.inj (some.symm.trans found)
    split
    · next tail comma =>
      obtain rfl := (List.cons.inj comma).2
      have reached : position + ((written.text ++ (blanks.chars ++ ',' ::
            (blanks'.chars ++ rest))).length - (',' :: (blanks'.chars ++ rest)).length) + 1 +
            ((blanks'.chars ++ rest).length - rest.length) =
          position + written.text.length + blanks.chars.length + 1 + blanks'.chars.length := by
        simp only [List.length_append, List.length_cons]
        omega
      simp only [following, reached, List.isEmpty_iff]
      rfl
    · next noComma => exact absurd rfl (noComma _)

/-- Over a link to some text the split goes on at that text. -/
theorem splitFrom_append_link (link : Link) {rest : List Char} (stops : Stops isBlank rest)
    (nonempty : rest ≠ []) (noComma : ∀ tail, rest ≠ ',' :: tail) :
    splitFrom position (written.text ++ (link.text ++ rest)) =
      (splitFrom (position + written.text.length + link.text.length) rest).map
        (written.located position :: ·) := by
  obtain ⟨before, comma, after⟩ := link
  cases comma with
  | false =>
    have parts := splitFrom_append position written (before.append after) stops noComma
    simpa [Nat.add_assoc] using parts
  | true =>
    have parts := splitFrom_append_comma position written before after stops
    rw [if_neg nonempty] at parts
    simpa [Nat.add_assoc, Nat.add_comm 1] using parts

variable {position written blanks}

/-- **What comes after an invocation.**  Either nothing but blanks follows a comma,
    and this is the fault, or the split goes on over a link. -/
theorem splitFrom_cases (position : Nat) (written : Written) (blanks : Blanks) {rest : List Char}
    (stops : Stops isBlank rest) :
    (∃ beyond : Blanks, rest = ',' :: beyond.chars ∧
      splitFrom position (written.text ++ (blanks.chars ++ rest)) =
        .error (.trailingSeparator,
          position + written.text.length + blanks.chars.length + beyond.chars.length)) ∨
      ∃ (link : Link) (following : List Char),
        blanks.chars ++ rest = link.text ++ following ∧ Stops isBlank following ∧
        (link.comma = true → following ≠ []) ∧
        splitFrom position (written.text ++ (blanks.chars ++ rest)) =
          (splitFrom (position + written.text.length + link.text.length) following).map
            (written.located position :: ·) := by
  by_cases comma : ∃ tail, rest = ',' :: tail
  · obtain ⟨tail, rfl⟩ := comma
    obtain ⟨beyond, tailIs⟩ := exists_blanks_trimStart tail
    have parts := splitFrom_append_comma position written blanks beyond (stops_trimStart tail)
    rw [← tailIs] at parts
    by_cases nothing : trimStart tail = []
    · rw [nothing, List.append_nil] at tailIs
      rw [if_pos nothing, Nat.add_right_comm _ 1, Nat.add_sub_cancel] at parts
      exact .inl ⟨beyond, by rw [tailIs], parts⟩
    · rw [if_neg nothing] at parts
      refine .inr ⟨⟨blanks, true, beyond⟩, trimStart tail, ?_, stops_trimStart tail,
        fun _ => nothing, ?_⟩
      · rw [Link.text_comma, List.append_assoc, List.cons_append, ← tailIs]
      · rw [parts]
        congr 2
        simp [Nat.add_assoc, Nat.add_comm 1]
  · have parts := splitFrom_append position written blanks stops fun tail same => comma ⟨tail, same⟩
    refine .inr ⟨⟨blanks, false, Run.empty⟩, rest, ?_, stops, by simp, ?_⟩
    · simp
    · simpa using parts

/-- A text that is split after an invocation goes on with a link, after which the
    rest is split; after a comma there is a rest. -/
theorem exists_link_of_splitFrom {rest : List Char} {invocations : List Invocation}
    (stops : Stops isBlank rest)
    (split : splitFrom position (written.text ++ (blanks.chars ++ rest)) = .ok invocations) :
    ∃ (link : Link) (following : List Char) (later : List Invocation),
      blanks.chars ++ rest = link.text ++ following ∧ Stops isBlank following ∧
      (link.comma = true → following ≠ []) ∧
      splitFrom (position + written.text.length + link.text.length) following = .ok later ∧
      invocations = written.located position :: later := by
  rcases splitFrom_cases position written blanks stops with
    ⟨beyond, -, fault⟩ | ⟨link, following, same, stopsFollowing, more, parts⟩
  · cases fault.symm.trans split
  · obtain ⟨later, splitLater, rfl⟩ := map_eq_ok_iff.mp (parts.symm.trans split)
    exact ⟨link, following, later, same, stopsFollowing, more, splitLater, rfl⟩

end AfterInvocation

theorem Written.text_append_ne_comma (written : Written) (rest tail : List Char) :
    written.text ++ rest ≠ ',' :: tail := by
  obtain ⟨first, more, letter, same⟩ := exists_run_of_isName written.isName
  rw [text, same]
  intro comma
  obtain ⟨rfl, -⟩ := List.cons.inj comma
  exact absurd letter (by decide)

def chain (position : Nat) (first : Written) (others : Followers Written) : List Invocation :=
  first.located position ::
    (placesFrom Written.text (position + first.text.length) others).map fun place =>
      place.2.located place.1

theorem chain_cons (position : Nat) (first : Written) (link : Link) (next : Written)
    (later : Followers Written) :
    chain position first ((link, next) :: later) =
      first.located position :: chain (position + first.text.length + link.text.length) next later :=
  rfl

/-- **Every chain is split into its invocations.** -/
theorem splitFrom_chain (position : Nat) (first : Written) (others : Followers Written)
    (after : Blanks) :
    splitFrom position (first.text ++ (followersText Written.text others ++ after.chars)) =
      .ok (chain position first others) := by
  induction others generalizing position first with
  | nil =>
    have parts := splitFrom_append position first after stops_nil (by simp)
    rw [List.append_nil, splitFrom_nil] at parts
    exact parts
  | cons follower later ih =>
    obtain ⟨link, next⟩ := follower
    have nonempty : next.text ++ (followersText Written.text later ++ after.chars) ≠ [] :=
      List.append_ne_nil_of_left_ne_nil (List.ne_nil_of_length_pos next.length_text_pos) _
    have parts := splitFrom_append_link position first link (next.stops_text _) nonempty
      (next.text_append_ne_comma _)
    rw [ih] at parts
    rw [followersText_cons, chain_cons, List.append_assoc, List.append_assoc]
    exact parts

/-- **What can be split is nothing or a chain.** -/
theorem exists_chain_of_splitFrom {position : Nat} {text : List Char}
    {invocations : List Invocation} (stops : Stops isBlank text)
    (split : splitFrom position text = .ok invocations) :
    (text = [] ∧ invocations = []) ∨
      ∃ (first : Written) (others : Followers Written) (after : Blanks),
        text = first.text ++ (followersText Written.text others ++ after.chars) ∧
        invocations = chain position first others := by
  -- on the length of the text, since what is left after an invocation is shorter
  induction bound : text.length using Nat.strongRecOn generalizing position text invocations with
  | _ length ih =>
    subst bound
    by_cases nonempty : text = []
    · subst nonempty
      rw [splitFrom_nil] at split
      exact .inl ⟨rfl, (Except.ok.inj split).symm⟩
    cases found : head? text with
    | none =>
      rw [splitFrom_of_head?_eq_none position nonempty found] at split
      cases split
    | some head =>
      right
      obtain ⟨blanks, first, rfl, stopsRest⟩ := exists_written_of_head?_of_stops stops found
      obtain ⟨link, following, later, same, stopsFollowing, more, splitLater, rfl⟩ :=
        exists_link_of_splitFrom stopsRest split
      rw [same] at ih ⊢
      have shorter : following.length < (first.text ++ (link.text ++ following)).length := by
        have := first.length_text_pos
        simp only [List.length_append]
        omega
      obtain ⟨rfl, rfl⟩ | ⟨next, others, after, rfl, rfl⟩ :=
        ih _ shorter stopsFollowing splitLater rfl
      · obtain ⟨before, comma, beyond⟩ := link
        cases comma with
        | true => exact absurd rfl (more rfl)
        | false => exact ⟨first, [], before.append beyond, by simp, rfl⟩
      · exact ⟨first, (link, next) :: others, after, by simp, rfl⟩

/-! ### The language of rule text -/

theorem split_eq_ok_iff_splitFrom {text : String} {before : Blanks} {rest : List Char}
    {invocations : List Invocation} (same : text.toList = before.chars ++ rest)
    (stops : Stops isBlank rest) :
    split text = .ok invocations ↔ splitFrom before.chars.length rest = .ok invocations := by
  have trimmed : trimStart text.toList = rest := by rw [same, trimStart_append before stops]
  have position : text.toList.length - rest.length = before.chars.length := by simp [same]
  unfold split
  simp only [trimmed, position]
  cases splitFrom before.chars.length rest <;> simp

/-- A text is split exactly when it is blank or a sequence of invocations, and
    then gives the invocations that stand in it. -/
theorem split_eq_ok_iff_exists_sequence {text : String} {invocations : List Invocation} :
    split text = .ok invocations ↔
      (invocations = [] ∧ ∃ blanks : Blanks, blanks.chars = text.toList) ∨
        ∃ sequence : Sequence Written, sequence.text Written.text = text.toList ∧
          sequence.invocations = invocations := by
  constructor
  · intro accepted
    obtain ⟨before, same⟩ := exists_blanks_trimStart text.toList
    have stops := stops_trimStart text.toList
    rw [split_eq_ok_iff_splitFrom same stops] at accepted
    obtain ⟨none, rfl⟩ | ⟨first, others, after, chained, rfl⟩ :=
      exists_chain_of_splitFrom stops accepted
    · exact .inl ⟨rfl, before, by rw [same, none, List.append_nil]⟩
    · exact .inr ⟨⟨before, first, others, after⟩, by rw [same, chained]; rfl, rfl⟩
  · rintro (⟨rfl, blanks, same⟩ | ⟨⟨before, first, others, after⟩, same, rfl⟩)
    · have blank : text.toList = blanks.chars ++ [] := by rw [same, List.append_nil]
      rw [split_eq_ok_iff_splitFrom blank stops_nil, splitFrom_nil]
    · rw [split_eq_ok_iff_splitFrom same.symm (first.stops_text _)]
      exact splitFrom_chain before.chars.length first others after

theorem split_text_of_map {α : Type} {change : α → Written} {itemText : α → List Char}
    (same : ∀ item, (change item).text = itemText item) (source : Sequence α) :
    split (String.ofList (source.text itemText)) =
      .ok ((source.places itemText).map fun place => (change place.2).located place.1) := by
  refine split_eq_ok_iff_exists_sequence.mpr (.inr ⟨source.map change, ?_, ?_⟩)
  · rw [String.toList_ofList, Sequence.text_map change same]
  · rw [Sequence.invocations, Sequence.places_map change same, List.map_map]
    rfl

theorem split_text_alone (written : Written) :
    split (String.ofList written.text) = .ok [written.located 0] := by
  refine split_eq_ok_iff_exists_sequence.mpr (.inr ⟨⟨Run.empty, written, [], Run.empty⟩, ?_, rfl⟩)
  simp [Sequence.text]

theorem exists_written_of_mem_split {text : String} {invocations : List Invocation}
    {invocation : Invocation} (accepted : split text = .ok invocations)
    (member : invocation ∈ invocations) :
    ∃ written : Written, written.text <+: text.toList.drop invocation.offset ∧
      written.located invocation.offset = invocation := by
  obtain ⟨rfl, -⟩ | ⟨sequence, same, rfl⟩ := split_eq_ok_iff_exists_sequence.mp accepted
  · cases member
  · obtain ⟨⟨offset, written⟩, place, rfl⟩ := List.mem_map.mp member
    refine ⟨written, ?_, rfl⟩
    rw [← same]
    exact sequence.prefix_drop_of_mem_places Written.text place

/-- **The splitter accepts exactly the language of rule text.**  A text is split
    if and only if it is blank, which gives no invocation, or a sequence of
    invocations; what comes out are the invocations that stand in it, in order,
    each with its name, its body without outer blanks, and the offset at which
    it is written.  Every other text is a fault. -/
theorem split_accepts_exactly_sequences (text : String) :
    (∀ invocations, split text = .ok invocations ↔
      (invocations = [] ∧ ∃ blanks : Blanks, blanks.chars = text.toList) ∨
        ∃ sequence : Sequence Written, sequence.text Written.text = text.toList ∧
          sequence.invocations = invocations ∧
          ∀ place ∈ sequence.places Written.text, place.2.text <+: text.toList.drop place.1) ∧
    ((∃ fault, split text = .error fault) ↔
      (¬ ∃ blanks : Blanks, blanks.chars = text.toList) ∧
        ¬ ∃ sequence : Sequence Written, sequence.text Written.text = text.toList) := by
  constructor
  · intro invocations
    rw [split_eq_ok_iff_exists_sequence]
    refine or_congr_right (exists_congr fun sequence => and_congr_right fun same =>
      (and_iff_left ?_).symm)
    rintro ⟨offset, written⟩ member
    rw [← same]
    exact sequence.prefix_drop_of_mem_places Written.text member
  · have accepted : (∃ invocations, split text = .ok invocations) ↔
        (∃ blanks : Blanks, blanks.chars = text.toList) ∨
          ∃ sequence : Sequence Written, sequence.text Written.text = text.toList := by
      constructor
      · rintro ⟨invocations, ok⟩
        obtain ⟨-, blank⟩ | ⟨sequence, same, -⟩ := split_eq_ok_iff_exists_sequence.mp ok
        · exact .inl blank
        · exact .inr ⟨sequence, same⟩
      · rintro (blank | ⟨sequence, same⟩)
        · exact ⟨[], split_eq_ok_iff_exists_sequence.mpr (.inl ⟨rfl, blank⟩)⟩
        · exact ⟨_, split_eq_ok_iff_exists_sequence.mpr (.inr ⟨sequence, same, rfl⟩)⟩
    rw [← not_or, ← accepted]
    cases split text <;> simp

end FieldRules.Invocation
