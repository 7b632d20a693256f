/-
  FieldRules/Proofs/Invocation/Quotes.lean
  ========================================
  **The splitter and the reader of arguments agree on where strings are.**

  Quotes are read twice: the splitter looks for the end of a body outside of
  quotations, and the reader of arguments finds the strings in the trimmed
  body.  Each has its own notion of what may stand in quotes.  What they share
  is the *place* with respect to quotes: `Place.step` says how one character
  changes it, and every step of the reader changes the place of its mode in
  that way (`placeOf_step`).  So after any characters that the reader takes, its
  place is the one that these characters lead to (`placeOf_feedAll`), whatever
  the tokens are.  Blanks do not move the place, so trimming does not matter.
-/
import FieldRules.Proofs.Arguments.Feeding
import FieldRules.Proofs.Invocation.Splitting

namespace FieldRules.Invocation

open FieldRules.Text
open FieldRules.Arguments (Mode Progress free_of_isSymbolChar free_of_isSeparator
  isSymbolChar_of_isDigit isSymbolChar_of_isUpper)

/-! ### Places -/

def Place.step : Place → Char → Place
  | .outside, c => if c = quoteMark then .inside else .outside
  | .inside, c => if c = quoteMark then .outside else if c = escapeMark then .escaped else .inside
  | .escaped, _ => .inside

def Place.after (place : Place) (text : List Char) : Place := text.foldl Place.step place

namespace Place

@[simp] theorem after_nil (place : Place) : place.after [] = place := rfl

@[simp] theorem after_cons (place : Place) (c : Char) (text : List Char) :
    place.after (c :: text) = (place.step c).after text := rfl

@[simp] theorem after_append (place : Place) (first second : List Char) :
    place.after (first ++ second) = (place.after first).after second :=
  List.foldl_append

theorem step_outside {c : Char} (free : c ≠ quoteMark) : step .outside c = .outside :=
  if_neg free

theorem step_inside {c : Char} (free : c ≠ quoteMark ∧ c ≠ escapeMark) :
    step .inside c = .inside := by
  rw [step, if_neg free.1, if_neg free.2]

theorem free_of_isBlank {c : Char} (blank : isBlank c = true) : c ≠ quoteMark ∧ c ≠ escapeMark := by
  constructor <;> rintro rfl <;> exact absurd blank (by decide)

/-- **Blanks lead neither into quotes nor out of them.** -/
theorem after_blanks_eq_outside_iff {place : Place} (blanks : Blanks) :
    place.after blanks.chars = .outside ↔ place = .outside := by
  obtain ⟨chars, all⟩ := blanks
  induction chars generalizing place with
  | nil => rfl
  | cons c rest ih =>
    have free := free_of_isBlank (all c List.mem_cons_self)
    rw [after_cons, ih fun d member => all d (.tail c member)]
    cases place with
    | outside => rw [step_outside free.1]
    | inside => rw [step_inside free]
    | escaped => simp [step]

end Place

/-! ### Parts of a text -/

/-- What a character is with respect to quotes: outside of them, the quote that
    opens a quotation, or any later character of a quotation, the closing quote
    included. -/
inductive Part where
  | plain
  | opening
  | within
deriving DecidableEq, Repr

abbrev Parted := List (Char × Part)

def parted (part : Part) (text : List Char) : Parted := text.map fun c => (c, part)

def bodyParts (body : List Piece) : Parted :=
  body.flatMap fun
    | .plain c _ => [(c, .plain)]
    | .quoted content _ =>
      (quoteMark, .opening) :: parted .within (quotedText content ++ [quoteMark])

def Place.part : Place → Char → Part
  | .outside, c => if c = quoteMark then .opening else .plain
  | .inside, _ | .escaped, _ => .within

def partsFrom (place : Place) : List Char → Parted
  | [] => []
  | c :: rest => (c, place.part c) :: partsFrom (place.step c) rest

theorem partsFrom_append (place : Place) (first second : List Char) :
    partsFrom place (first ++ second) =
      partsFrom place first ++ partsFrom (place.after first) second := by
  induction first generalizing place with
  | nil => rfl
  | cons c rest ih => rw [List.cons_append, partsFrom, ih, partsFrom, Place.after_cons,
      List.cons_append]

@[simp] theorem map_fst_partsFrom (place : Place) (text : List Char) :
    (partsFrom place text).map Prod.fst = text := by
  induction text generalizing place with
  | nil => rfl
  | cons c rest ih => rw [partsFrom, List.map_cons, ih]

/-- The part of a character is the one at the place that the text before leads to. -/
theorem part_of_partsFrom_eq {place : Place} {text : List Char} {before after : Parted} {c : Char}
    {part : Part} (same : partsFrom place text = before ++ (c, part) :: after) :
    part = (place.after (before.map Prod.fst)).part c := by
  induction before generalizing place text with
  | nil =>
    cases text with
    | nil => cases same
    | cons d rest =>
      obtain ⟨rfl, rfl⟩ := Prod.mk.inj (List.cons.inj same).1
      rfl
  | cons first before ih =>
    cases text with
    | nil => cases same
    | cons d rest =>
      obtain ⟨rfl, sameRest⟩ := List.cons.inj same
      exact ih sameRest

theorem partsFrom_quotedText (content : List QuotedChar) :
    partsFrom .inside (quotedText content ++ [quoteMark]) =
        parted .within (quotedText content ++ [quoteMark]) ∧
      Place.after .inside (quotedText content ++ [quoteMark]) = .outside := by
  induction content with
  | nil => exact ⟨rfl, rfl⟩
  | cons unit content ih =>
    obtain ⟨parts, leads⟩ := ih
    cases unit with
    | plain c free =>
      have stays := Place.step_inside free
      rw [quotedText_plain, List.cons_append, partsFrom, Place.after_cons, stays, parts, leads]
      exact ⟨rfl, rfl⟩
    | escaped c =>
      have escapes : Place.step .inside escapeMark = .escaped := by decide
      rw [quotedText_escaped, List.cons_append, List.cons_append, partsFrom, partsFrom,
        Place.after_cons, Place.after_cons, escapes, Place.step, parts, leads]
      exact ⟨rfl, rfl⟩

/-- **The pieces and the places say the same** about the characters of a body,
    and a body leads out of all quotes. -/
theorem partsFrom_bodyText (body : List Piece) :
    partsFrom .outside (bodyText body) = bodyParts body ∧
      Place.after .outside (bodyText body) = .outside := by
  induction body with
  | nil => exact ⟨rfl, rfl⟩
  | cons piece later ih =>
    obtain ⟨parts, leads⟩ := ih
    rw [bodyText_cons, partsFrom_append, Place.after_append]
    cases piece with
    | plain c free =>
      have stays := Place.step_outside free.2
      rw [Piece.text, Place.after_cons, Place.after_nil, stays, parts, leads]
      have part : Place.part .outside c = .plain := if_neg free.2
      exact ⟨by simp [partsFrom, part, bodyParts], rfl⟩
    | quoted content unbroken =>
      obtain ⟨within, leadsOut⟩ := partsFrom_quotedText content
      have opens : Place.step .outside quoteMark = .inside := by decide
      have opening : Place.part .outside quoteMark = .opening := by decide
      rw [Piece.text, quotation, partsFrom, Place.after_cons, opens, opening, within, leadsOut,
        parts, leads]
      exact ⟨by simp [bodyParts], rfl⟩

theorem ne_of_plain_mem_bodyParts {body : List Piece} {c : Char}
    (member : (c, Part.plain) ∈ bodyParts body) : c ≠ ')' := by
  obtain ⟨piece, -, inPiece⟩ := List.mem_flatMap.mp member
  cases piece with
  | plain d free =>
    obtain ⟨rfl, -⟩ := Prod.mk.inj (List.mem_singleton.mp inPiece)
    exact free.1
  | quoted content unbroken => simp [parted] at inPiece

theorem partsFrom_blanks (blanks : Blanks) :
    partsFrom .outside blanks.chars = parted .plain blanks.chars := by
  obtain ⟨chars, all⟩ := blanks
  induction chars with
  | nil => rfl
  | cons c rest ih =>
    have free := Place.free_of_isBlank (all c List.mem_cons_self)
    have part : Place.part .outside c = .plain := if_neg free.1
    simp only at ih
    rw [partsFrom, Place.step_outside free.1, part, ih fun d member => all d (.tail c member)]
    rfl

/-! ### The places of a reader -/

def placeOf : Mode → Place
  | .between | .integer | .symbol => .outside
  | .quoted => .inside
  | .escaped => .escaped

theorem inString_eq_true_iff {mode : Mode} : mode.inString = true ↔ placeOf mode ≠ .outside := by
  cases mode <;> simp [Mode.inString, placeOf]

/-- **Every step of the reader moves its place as its character does.** -/
theorem placeOf_step {progress next : Progress} {c : Char} {offset : Nat}
    (step : Progress.Step progress offset c next) :
    placeOf next.mode = (placeOf progress.mode).step c := by
  have stays {c : Char} (free : c ≠ ')' ∧ c ≠ quoteMark) : Place.outside = Place.outside.step c :=
    (Place.step_outside free.2).symm
  cases step with
  | skip mode separates =>
    rw [mode]
    exact stays (free_of_isSeparator separates)
  | beginInteger mode digit =>
    rw [mode]
    exact stays (free_of_isSymbolChar (isSymbolChar_of_isDigit digit))
  | beginSymbol mode upper =>
    rw [mode]
    exact stays (free_of_isSymbolChar (isSymbolChar_of_isUpper upper))
  | beginString mode => rw [mode]; rfl
  | moreInteger mode digit =>
    rw [mode]
    exact stays (free_of_isSymbolChar (isSymbolChar_of_isDigit digit))
  | closeInteger mode separates =>
    rw [mode]
    exact stays (free_of_isSeparator separates)
  | moreSymbol mode continues =>
    rw [mode]
    exact stays (free_of_isSymbolChar continues)
  | closeSymbol mode separates =>
    rw [mode]
    exact stays (free_of_isSeparator separates)
  | moreString mode free printable => rw [mode]; exact (Place.step_inside free).symm
  | beginEscape mode => rw [mode]; rfl
  | closeString mode => rw [mode]; rfl
  | endEscape mode printable => rw [mode]; rfl

/-- **After any stretch of text that the reader takes, its place is the one that
    the stretch leads to.** -/
theorem placeOf_feedAll {progress last : Progress} {offset : Nat} {text : List Char}
    (taken : progress.feedAll offset text = .ok last) :
    placeOf last.mode = (placeOf progress.mode).after text := by
  induction text generalizing progress offset with
  | nil => rw [Except.ok.inj taken]; rfl
  | cons c rest ih =>
    obtain ⟨next, step, takenRest⟩ := Progress.feedAll_cons_eq_ok_iff.mp taken
    rw [Place.after_cons, ← placeOf_step step, ih takenRest]

theorem placeOf_feedAll_initial {last : Progress} {text : List Char}
    (taken : Progress.feedAll {} 0 text = .ok last) :
    placeOf last.mode = Place.after .outside text :=
  placeOf_feedAll taken

/-! ### The agreement -/

/-- The reader follows the parts of a text, as far as it takes its characters:
    it stands in a string before a character exactly when the character lies
    within a quotation, and stands in a string before or after the character
    exactly when the character belongs to a quotation. -/
structure Followed (parts : Parted) : Prop where
  reached : ∀ (before : Parted) (c : Char) (part : Part) (after : Parted) (progress : Progress),
    parts = before ++ (c, part) :: after →
    Progress.feedAll {} 0 (before.map Prod.fst) = .ok progress →
    (progress.mode.inString = true ↔ part = .within)
  taken : ∀ (before : Parted) (c : Char) (part : Part) (after : Parted) (progress next : Progress),
    parts = before ++ (c, part) :: after →
    Progress.feedAll {} 0 (before.map Prod.fst) = .ok progress →
    progress.feed c before.length = .ok next →
    (progress.mode.inString = true ∨ next.mode.inString = true ↔ part ≠ .plain)

theorem part_eq_within_iff {place : Place} {c : Char} :
    place.part c = .within ↔ place ≠ .outside := by
  cases place with
  | outside =>
    rw [Place.part]
    split <;> simp
  | inside => simp [Place.part]
  | escaped => simp [Place.part]

theorem part_ne_plain_iff {place : Place} {c : Char} :
    place.part c ≠ .plain ↔ place ≠ .outside ∨ place.step c ≠ .outside := by
  cases place with
  | outside => simp [Place.part, Place.step]
  | inside => simp [Place.part]
  | escaped => simp [Place.part]

/-- **The reader follows the parts that the places say.** -/
theorem followed_partsFrom (text : List Char) : Followed (partsFrom .outside text) where
  reached before c part after progress same taken := by
    rw [part_of_partsFrom_eq same, part_eq_within_iff, inString_eq_true_iff,
      placeOf_feedAll_initial taken]
  taken before c part after progress next same taken fed := by
    rw [part_of_partsFrom_eq same, part_ne_plain_iff, inString_eq_true_iff, inString_eq_true_iff,
      placeOf_step (Progress.feed_eq_ok_iff.mp fed), placeOf_feedAll_initial taken]

/-- The splitter and the reader agree on the strings of a body, from which the
    argument text comes. -/
structure QuotesAgree (body : List Piece) (arguments : String) : Prop where
  /-- The reader does not run out of text inside a string: if it stops, then at
      a character that it refuses. -/
  terminated : ∀ fault, Arguments.parse arguments = .error fault →
    fault.problem ≠ .unterminatedString ∧
      Progress.RefusesAt {} 0 arguments.toList fault.problem fault.offset
  /-- The argument text is the body without blanks that stand outside of
      quotations, and the reader follows the quotations of the body. -/
  followed : ∃ (before after : Blanks) (parts : Parted),
    bodyParts body = parted .plain before.chars ++ (parts ++ parted .plain after.chars) ∧
      parts.map Prod.fst = arguments.toList ∧ Followed parts
  /-- Whatever text follows the body, the closing parenthesis at its end is the
      only one that the reader comes to outside of strings. -/
  closing : ∀ (rest before after : List Char) (progress : Progress),
    bodyText body ++ ')' :: rest = before ++ ')' :: after →
    Progress.feedAll {} 0 before = .ok progress →
    (progress.mode.inString = false ↔ before = bodyText body)

theorem after_trim_bodyText (body : List Piece) :
    Place.after .outside (trim (bodyText body)) = .outside := by
  obtain ⟨before, after, same⟩ := exists_blanks_trim (bodyText body)
  have leads := (partsFrom_bodyText body).2
  rw [same, Place.after_append, Place.after_append, Place.after_blanks_eq_outside_iff,
    (Place.after_blanks_eq_outside_iff before).mpr rfl] at leads
  exact leads

/-- The trimmed text of a body, with the parts that its characters have in the
    body. -/
theorem exists_parts_trim_bodyText (body : List Piece) :
    ∃ before after : Blanks,
      bodyParts body = parted .plain before.chars ++
        (partsFrom .outside (trim (bodyText body)) ++ parted .plain after.chars) := by
  obtain ⟨before, after, same⟩ := exists_blanks_trim (bodyText body)
  refine ⟨before, after, ?_⟩
  have leads := (Place.after_blanks_eq_outside_iff before).mpr (Eq.refl Place.outside)
  calc bodyParts body
    _ = partsFrom .outside (bodyText body) := (partsFrom_bodyText body).1.symm
    _ = partsFrom .outside (before.chars ++ (trim (bodyText body) ++ after.chars)) := by rw [← same]
    _ = _ := by
      rw [partsFrom_append, leads, partsFrom_append, after_trim_bodyText, partsFrom_blanks,
        partsFrom_blanks]

/-- Reading a body never ends inside a string. -/
theorem refusesAt_of_parse_trim_bodyText {body : List Piece} {fault : SyntaxFault}
    (stopped : Arguments.parse (String.ofList (trim (bodyText body))) = .error fault) :
    Progress.RefusesAt {} 0 (trim (bodyText body)) fault.problem fault.offset := by
  have stops := Arguments.parse_eq_error_cases stopped
  rw [String.toList_ofList] at stops
  refine stops.resolve_right ?_
  rintro ⟨reached, taken, unfinished⟩
  have inString := Progress.inString_of_finish_eq_error unfinished
  rw [inString_eq_true_iff, placeOf_feedAll_initial taken, after_trim_bodyText] at inString
  exact inString rfl

/-- A closing parenthesis of a body that stands before its end is in a quotation. -/
theorem after_ne_outside_of_bodyText_eq {body : List Piece} {before after : List Char}
    (same : bodyText body = before ++ ')' :: after) : Place.after .outside before ≠ .outside := by
  intro outside
  have parts := (partsFrom_bodyText body).1
  rw [same, partsFrom_append, outside, partsFrom] at parts
  have part : Place.part .outside ')' = .plain := by decide
  have member : (')', Part.plain) ∈ bodyParts body := by
    rw [← parts, part]
    exact List.mem_append_right _ List.mem_cons_self
  exact ne_of_plain_mem_bodyParts member rfl

/-- Outside of strings the reader takes no closing parenthesis. -/
theorem ne_closing_of_step {progress next : Progress} {c : Char} {offset : Nat}
    (step : Progress.Step progress offset c next) (outside : placeOf progress.mode = .outside) :
    c ≠ ')' := by
  cases step with
  | skip mode separates => exact (free_of_isSeparator separates).1
  | beginInteger mode digit => exact (free_of_isSymbolChar (isSymbolChar_of_isDigit digit)).1
  | beginSymbol mode upper => exact (free_of_isSymbolChar (isSymbolChar_of_isUpper upper)).1
  | beginString mode => decide
  | moreInteger mode digit => exact (free_of_isSymbolChar (isSymbolChar_of_isDigit digit)).1
  | closeInteger mode separates => exact (free_of_isSeparator separates).1
  | moreSymbol mode continues => exact (free_of_isSymbolChar continues).1
  | closeSymbol mode separates => exact (free_of_isSeparator separates).1
  -- in the remaining modes the reader is in a string
  | moreString mode free printable => simp [mode, placeOf] at outside
  | beginEscape mode => decide
  | closeString mode => decide
  | endEscape mode printable => simp [mode, placeOf] at outside

theorem feedAll_closing_ne_ok {before later : List Char}
    (outside : Place.after .outside before = .outside) (progress : Progress) :
    Progress.feedAll {} 0 (before ++ ')' :: later) ≠ .ok progress := by
  intro taken
  obtain ⟨middle, takenBefore, takenLater⟩ := Progress.feedAll_append_eq_ok_iff.mp taken
  obtain ⟨next, step, -⟩ := Progress.feedAll_cons_eq_ok_iff.mp takenLater
  exact ne_closing_of_step step ((placeOf_feedAll_initial takenBefore).trans outside) rfl

/-- **The splitter ends a body where the reader would first see a closing
    parenthesis outside of strings.** -/
theorem inString_eq_false_iff_eq_bodyText {body : List Piece} {rest before after : List Char}
    {progress : Progress} (same : bodyText body ++ ')' :: rest = before ++ ')' :: after)
    (taken : Progress.feedAll {} 0 before = .ok progress) :
    progress.mode.inString = false ↔ before = bodyText body := by
  have leadsOut := (partsFrom_bodyText body).2
  rw [← Bool.not_eq_true, inString_eq_true_iff, ne_eq, Classical.not_not,
    placeOf_feedAll_initial taken]
  constructor
  · intro outside
    rcases List.append_eq_append_iff.mp same with ⟨later, rfl, sameLater⟩ | ⟨later, longer, sameLater⟩
    · cases later with
      | nil => exact List.append_nil _
      | cons c later =>
        obtain ⟨rfl, -⟩ := List.cons.inj sameLater
        exact absurd taken (feedAll_closing_ne_ok leadsOut progress)
    · cases later with
      | nil => rw [longer, List.append_nil]
      | cons c later =>
        obtain ⟨rfl, -⟩ := List.cons.inj sameLater
        exact absurd outside (after_ne_outside_of_bodyText_eq longer)
  · rintro rfl
    exact leadsOut

/-- **On every body the splitter and the reader agree.** -/
theorem quotesAgree_trim_bodyText (body : List Piece) :
    QuotesAgree body (String.ofList (trim (bodyText body))) where
  terminated fault stopped := by
    have refuses := refusesAt_of_parse_trim_bodyText stopped
    refine ⟨?_, by rwa [String.toList_ofList]⟩
    obtain ⟨-, c, -, reached, -, -, -, refused⟩ := refuses
    intro unterminated
    exact Progress.feed_ne_unterminatedString reached c fault.offset (unterminated ▸ refused)
  followed := by
    obtain ⟨before, after, parts⟩ := exists_parts_trim_bodyText body
    exact ⟨before, after, _, parts, by rw [map_fst_partsFrom, String.toList_ofList],
      followed_partsFrom _⟩
  closing _ _ _ _ same taken := inString_eq_false_iff_eq_bodyText same taken

/-- **The splitter and the reader agree on the strings of every invocation.**  An
    invocation of a text that can be split is written at its offset, with one
    reading as a name, a gap and the pieces of a body, and on this body the two
    agree. -/
theorem quotes_agree_of_split {text : String} {invocations : List Invocation}
    (accepted : split text = .ok invocations) {invocation : Invocation}
    (member : invocation ∈ invocations) :
    (∃! written : Written, written.text <+: text.toList.drop invocation.offset) ∧
      ∀ written : Written, written.text <+: text.toList.drop invocation.offset →
        written.located invocation.offset = invocation ∧
          QuotesAgree written.body invocation.arguments := by
  obtain ⟨written, isPrefix, located⟩ := exists_written_of_mem_split accepted member
  have unique : ∀ other : Written, other.text <+: text.toList.drop invocation.offset →
      other = written := by
    rintro other ⟨rest, same⟩
    obtain ⟨rest', same'⟩ := isPrefix
    exact (Written.text_append_inj (same.trans same'.symm)).1
  refine ⟨⟨written, isPrefix, unique⟩, fun other otherPrefix => ?_⟩
  obtain rfl := unique other otherPrefix
  refine ⟨located, ?_⟩
  rw [← located]
  exact quotesAgree_trim_bodyText other.body

/-- The agreement on an invocation that has a quote and a closing parenthesis in
    its string, and an argument that the reader refuses. -/
theorem quotes_agree_of_split_closing_in_string :
    split " in ('\\')', x )" = .ok [⟨"in", "'\\')', x", 1⟩] ∧
      (∃! written : Written, written.text <+: " in ('\\')', x )".toList.drop 1) ∧
      ∀ written : Written, written.text <+: " in ('\\')', x )".toList.drop 1 →
        written.located 1 = ⟨"in", "'\\')', x", 1⟩ ∧ QuotesAgree written.body "'\\')', x" := by
  have accepted : split " in ('\\')', x )" = .ok [⟨"in", "'\\')', x", 1⟩] := by
    let space : Blanks := Run.cons ' ' (by decide) Run.empty
    refine split_eq_ok_iff_exists_sequence.mpr (.inr ⟨⟨space, ⟨['i', 'n'], by decide, space,
      [.quoted [.escaped quoteMark, .plain ')' (by decide)] (by decide), .plain ',' (by decide),
        .plain ' ' (by decide), .plain 'x' (by decide), .plain ' ' (by decide)]⟩, [],
      Run.empty⟩, ?_, ?_⟩)
    · decide
    · decide
  exact ⟨accepted, quotes_agree_of_split accepted List.mem_cons_self⟩

end FieldRules.Invocation
