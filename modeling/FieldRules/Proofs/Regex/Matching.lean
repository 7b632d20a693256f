/-
  FieldRules/Proofs/Regex/Matching.lean
  =====================================
  **Patterns that leave the matcher no choice.**

  A matcher is handed what has to follow, and takes back its choices until that
  is met.  A matcher is *decided* if from each place it goes to one place at most,
  whatever follows: it takes a front off the text ahead, or refuses (`Decided`).
  Decided patterns can be put one after the other, and side by side if no text
  begins in both ways (`Decided.alt`).

  A repetition is not decided by itself, since rounds can be taken back.  But
  where nothing that follows can begin at a place from which a round is possible,
  no round is ever taken back: the repetition is a loop of as many rounds as there
  are (`star_of_committed`), and with what follows it is decided
  (`Decided.star_seq`).
-/
import FieldRules.Regex.Match

namespace FieldRules.Regex

/-! ### Places of a text -/

def Cursor.past (cursor : Cursor) (taken rest : List Char) : Cursor :=
  { cursor with
    before := taken.reverse ++ cursor.before, after := rest
    position := cursor.position + taken.length }

/-- The place in a text where so many characters stand before it, or the end of the
    text if it has fewer. -/
def Cursor.inText (text : List Char) (count : Nat) : Cursor :=
  { before := (text.take count).reverse, after := text.drop count
    position := min count text.length }

section Places

variable (cursor : Cursor) (taken rest : List Char)

@[simp] theorem Cursor.past_after : (cursor.past taken rest).after = rest := rfl

@[simp] theorem Cursor.past_position :
    (cursor.past taken rest).position = cursor.position + taken.length := rfl

@[simp] theorem Cursor.past_groups : (cursor.past taken rest).groups = cursor.groups := rfl

@[simp] theorem Cursor.past_past (more later : List Char) :
    (cursor.past taken rest).past more later = cursor.past (taken ++ more) later := by
  simp [past, Nat.add_assoc]

@[simp] theorem Cursor.record_after (group : Nat) (text : List Char) :
    (cursor.record group text).after = cursor.after := rfl

@[simp] theorem Cursor.past_record (group : Nat) (text : List Char) :
    (cursor.record group text).past taken rest = (cursor.past taken rest).record group text := rfl

end Places

@[simp] theorem Cursor.inText_after (text : List Char) (count : Nat) :
    (inText text count).after = text.drop count := rfl

theorem Cursor.past_nil {cursor : Cursor} {rest : List Char} (ahead : cursor.after = rest) :
    cursor.past [] rest = cursor := by
  subst ahead
  rfl

/-- The text that a group matches: the characters between two places. -/
theorem Cursor.take_past {cursor : Cursor} {taken rest : List Char}
    (ahead : cursor.after = taken ++ rest) :
    cursor.after.take ((cursor.past taken rest).position - cursor.position) = taken := by
  rw [past_position, Nat.add_sub_cancel_left, ahead, List.take_left]

theorem Cursor.past_inText {text taken rest : List Char} {count : Nat}
    (ahead : text.drop count = taken ++ rest) :
    (inText text count).past taken rest = inText text (text.length - rest.length) := by
  have whole : text = text.take count ++ taken ++ rest := by
    rw [List.append_assoc, ← ahead, List.take_append_drop]
  have length : text.length - rest.length = (text.take count ++ taken).length := by
    rw [congrArg List.length whole, List.length_append, Nat.add_sub_cancel]
  have behind : text.take (text.length - rest.length) = text.take count ++ taken := by
    rw [length]
    exact (congrArg _ whole).trans List.take_left
  have left : text.drop (text.length - rest.length) = rest := by
    rw [length]
    exact (congrArg _ whole).trans List.drop_left
  rw [inText, inText, past, behind, left, length]
  simp only [Cursor.mk.injEq, List.reverse_append, true_and, and_true]
  rw [List.length_append, List.length_take]
  have fits := congrArg List.length whole
  simp only [List.length_append, List.length_take] at fits
  omega

/-! ### Cuts of texts -/

/-- A way to cut the front off a text: the characters taken, and those left. -/
abbrev Cut := List Char → Option (List Char × List Char)

namespace Cut

def one (kind : Char → Bool) : Cut
  | [] => none
  | c :: rest => if kind c then some ([c], rest) else none

def character (c : Char) : Cut := one (· == c)

def anyBut (excluded : List Char) : Cut := one (!excluded.contains ·)

def prefixed (before : List Char) (found : List Char × List Char) : List Char × List Char :=
  (before ++ found.1, found.2)

/-- One cut, and another one of what is left. -/
def append (first second : Cut) : Cut := fun text =>
  (first text).bind fun found => (second found.2).map (prefixed found.1)

def or (first second : Cut) : Cut := fun text => (first text).or (second text)

/-- No text can be cut in both ways. -/
def Apart (first second : Cut) : Prop := ∀ text, first text ≠ none → second text = none

/-- What is taken is not empty, and it is the text together with what is left. -/
def Splits (cut : Cut) : Prop :=
  ∀ text found, cut text = some found → text = found.1 ++ found.2 ∧ found.1 ≠ []

def rounds (cut : Cut) (text : List Char) : List Char × List Char :=
  match cut text with
  | none => ([], text)
  | some (taken, rest) =>
    if rest.length < text.length then
      let (more, left) := rounds cut rest
      (taken ++ more, left)
    else ([], text)
termination_by text.length

/-- As many cuts of one kind as there are, and then one of another kind. -/
def loop (round stop : Cut) : Cut := fun text =>
  (stop (rounds round text).2).map (prefixed (rounds round text).1)

variable {cut : Cut} {text taken rest : List Char} {kind : Char → Bool}

@[simp] theorem prefixed_fst (before : List Char) (found : List Char × List Char) :
    (prefixed before found).1 = before ++ found.1 := rfl

@[simp] theorem prefixed_snd (before : List Char) (found : List Char × List Char) :
    (prefixed before found).2 = found.2 := rfl

@[simp] theorem prefixed_nil : prefixed [] = id := rfl

@[simp] theorem prefixed_comp (before more : List Char) :
    prefixed before ∘ prefixed more = prefixed (before ++ more) := by
  funext found
  simp [prefixed]

theorem one_ne_none_iff :
    one kind text ≠ none ↔ ∃ c rest, text = c :: rest ∧ kind c = true := by
  cases text with
  | nil => simp [one]
  | cons c rest => simp [one]

theorem one_eq_some_iff {found : List Char × List Char} :
    one kind text = some found ↔
      ∃ c rest, text = c :: rest ∧ kind c = true ∧ found = ([c], rest) := by
  constructor
  · intro taken
    cases text with
    | nil => cases taken
    | cons c rest =>
      rw [one] at taken
      split at taken
      · next isKind => exact ⟨c, rest, rfl, isKind, (Option.some.inj taken).symm⟩
      · cases taken
  · rintro ⟨c, rest, rfl, isKind, rfl⟩
    simp [one, isKind]

theorem splits_one (kind : Char → Bool) : Splits (one kind) := by
  intro text found taken
  obtain ⟨c, rest, rfl, -, rfl⟩ := one_eq_some_iff.mp taken
  exact ⟨rfl, List.cons_ne_nil c []⟩

theorem append_eq_some_iff {first second : Cut} {found : List Char × List Char} :
    first.append second text = some found ↔
      ∃ before more, first text = some before ∧ second before.2 = some more ∧
        found = prefixed before.1 more := by
  simp only [append, Option.bind_eq_some_iff, Option.map_eq_some_iff, exists_and_left,
    @eq_comm _ found]

theorem Apart.symm {first second : Cut} (apart : first.Apart second) :
    second.Apart first := by
  intro text begins
  cases found : first text with
  | none => rfl
  | some _ => exact absurd (apart text (by simp [found])) begins

/-- Characters of two kinds that have none in common. -/
theorem apart_one {other : Char → Bool} (apart : ∀ c, kind c = true → other c = false) :
    Apart (one kind) (one other) := by
  intro text begins
  obtain ⟨c, rest, rfl, isKind⟩ := one_ne_none_iff.mp begins
  simp [one, apart c isKind]

theorem apart_character {c d : Char} (different : c ≠ d) :
    (character c).Apart (character d) :=
  apart_one (by simpa using different)

theorem apart_anyBut {c : Char} {excluded : List Char} (member : c ∈ excluded) :
    (character c).Apart (anyBut excluded) :=
  apart_one (by simpa using member)

theorem Apart.append {first second : Cut} (apart : first.Apart second) (later : Cut) :
    (first.append later).Apart second := by
  intro text begins
  refine apart text fun refused => begins ?_
  rw [Cut.append, refused]
  rfl

theorem Apart.or {first second third : Cut} (apart : first.Apart third)
    (apartToo : second.Apart third) : (first.or second).Apart third := by
  intro text begins
  by_cases refused : first text = none
  · refine apartToo text fun refusedToo => begins ?_
    rw [Cut.or, refused, refusedToo]
    rfl
  · exact apart text refused

theorem Splits.length_lt (splits : cut.Splits) (found : cut text = some (taken, rest)) :
    rest.length < text.length := by
  obtain ⟨rfl, nonempty⟩ := splits _ _ found
  have moved : 0 < taken.length := List.length_pos_iff.mpr nonempty
  simp only [List.length_append]
  omega

theorem Splits.induction (splits : cut.Splits) {motive : List Char → Prop}
    (stop : ∀ text, cut text = none → motive text)
    (step : ∀ text found, cut text = some found → motive found.2 → motive text)
    (text : List Char) : motive text := by
  induction length : text.length using Nat.strongRecOn generalizing text with
  | _ length ih =>
    subst length
    cases found : cut text with
    | none => exact stop text found
    | some pair => exact step text pair found (ih _ (splits.length_lt found) pair.2 rfl)

theorem rounds_of_none (refused : cut text = none) : rounds cut text = ([], text) := by
  rw [rounds, refused]

theorem rounds_of_some (splits : cut.Splits) (found : cut text = some (taken, rest)) :
    rounds cut text = (taken ++ (rounds cut rest).1, (rounds cut rest).2) := by
  rw [rounds, found]
  exact if_pos (splits.length_lt found)

theorem rounds_one (kind : Char → Bool) (text : List Char) :
    rounds (one kind) text = (text.takeWhile kind, text.dropWhile kind) := by
  induction text with
  | nil => exact rounds_of_none rfl
  | cons c rest ih =>
    cases isKind : kind c with
    | false =>
      rw [rounds_of_none (by simp [one, isKind])]
      simp [isKind]
    | true =>
      have found : one kind (c :: rest) = some ([c], rest) := by simp [one, isKind]
      rw [rounds_of_some (splits_one kind) found, ih]
      simp [isKind]

/-- What the rounds take and what they leave are the text. -/
theorem append_rounds (splits : cut.Splits) (text : List Char) :
    (rounds cut text).1 ++ (rounds cut text).2 = text := by
  induction text using splits.induction with
  | stop text refused => rw [rounds_of_none refused, List.nil_append]
  | step text found taken ih =>
    rw [rounds_of_some splits taken, List.append_assoc, ih]
    exact (splits _ _ taken).1.symm

/-- **A scan that goes on after each cut**, and otherwise goes over to another one, makes as
    many cuts as there are first. -/
theorem eq_rounds {round : Cut} (scan last : Cut) (splits : round.Splits)
    (goes : ∀ text found, round text = some found →
      scan text = (scan found.2).map (prefixed found.1))
    (stops : ∀ text, round text = none → scan text = last text) (text : List Char) :
    scan text = (last (rounds round text).2).map (prefixed (rounds round text).1) := by
  induction text using splits.induction with
  | stop text refused => simp [stops text refused, rounds_of_none refused]
  | step text found taken ih =>
    rw [goes text found taken, ih, Option.map_map, rounds_of_some splits taken, prefixed_comp]

theorem Splits.append {first second : Cut} (splits : first.Splits) (later : second.Splits) :
    (first.append second).Splits := by
  intro text found taken
  obtain ⟨before, more, isBefore, isMore, rfl⟩ := append_eq_some_iff.mp taken
  obtain ⟨rfl, nonempty⟩ := splits _ _ isBefore
  obtain ⟨same, -⟩ := later _ _ isMore
  refine ⟨by rw [prefixed_fst, prefixed_snd, List.append_assoc, ← same], ?_⟩
  exact List.append_ne_nil_of_left_ne_nil nonempty _

theorem Splits.or {first second : Cut} (splits : first.Splits) (others : second.Splits) :
    (first.or second).Splits := by
  intro text found taken
  rcases Option.or_eq_some_iff.mp taken with taken | ⟨-, taken⟩
  · exact splits _ _ taken
  · exact others _ _ taken

theorem Splits.loop {round stop : Cut} (rounds : round.Splits) (stops : stop.Splits) :
    (round.loop stop).Splits := by
  intro text found taken
  obtain ⟨last, isLast, rfl⟩ := Option.map_eq_some_iff.mp taken
  obtain ⟨same, nonempty⟩ := stops _ _ isLast
  refine ⟨?_, List.append_ne_nil_of_right_ne_nil _ nonempty⟩
  rw [prefixed_fst, prefixed_snd, List.append_assoc, ← same, append_rounds rounds]

end Cut

/-! ### Decided matchers -/

theorem matcher_seq (first second : Regex) (cursor : Cursor) (next : Cursor → Option Cursor) :
    (seq first second).matcher cursor next =
      first.matcher cursor fun middle => second.matcher middle next := rfl

theorem matcher_alt (first second : Regex) (cursor : Cursor) (next : Cursor → Option Cursor) :
    (alt first second).matcher cursor next =
      (first.matcher cursor next).orElse fun _ => second.matcher cursor next := rfl

theorem matcher_capture (group : Nat) (body : Regex) (cursor : Cursor)
    (next : Cursor → Option Cursor) :
    (capture group body).matcher cursor next = body.matcher cursor fun after =>
      next (after.record group (cursor.after.take (after.position - cursor.position))) := rfl

/-- From each place the matcher goes to one place at most, which is past a cut of the text
    ahead. -/
structure Decided (pattern : Regex) (cut : Cut) : Prop where
  goes : ∀ cursor next, pattern.matcher cursor next =
    (cut cursor.after).bind fun found => next (cursor.past found.1 found.2)
  splits : cut.Splits

theorem decided_char (test : CharTest) : Decided (char test) (Cut.one test.admits) where
  goes cursor next := by
    obtain ⟨before, after, position, groups⟩ := cursor
    cases after with
    | nil => rfl
    | cons c rest =>
      simp only [matcher, Cursor.step?, Cut.one]
      split <;> rfl
  splits := Cut.splits_one _

theorem Decided.seq {first second : Regex} {cut later : Cut} (decided : Decided first cut)
    (decidedToo : Decided second later) : Decided (.seq first second) (cut.append later) where
  goes cursor next := by
    rw [matcher_seq, decided.goes, Cut.append, Option.bind_assoc]
    congr 1
    funext found
    rw [decidedToo.goes, Option.bind_map, Cursor.past_after]
    simp only [Cursor.past_past]
    rfl
  splits := decided.splits.append decidedToo.splits

/-- **Side by side**, where no text begins in both ways. -/
theorem Decided.alt {first second : Regex} {cut other : Cut} (decided : Decided first cut)
    (decidedToo : Decided second other) (apart : cut.Apart other) :
    Decided (.alt first second) (cut.or other) where
  goes cursor next := by
    rw [matcher_alt, decided.goes, decidedToo.goes, Cut.or]
    cases found : cut cursor.after with
    | none => rfl
    | some pair =>
      rw [apart cursor.after (by simp [found])]
      cases next (cursor.past pair.1 pair.2) with
      | none => simp
      | some stop => simp
  splits := decided.splits.or decidedToo.splits

/-! ### Repetitions -/

def star (body : Regex) : Regex := .repeated body 0 none .greedy

section Star

variable {body follow : Regex} {round stop : Cut} {cursor : Cursor}
  {next : Cursor → Option Cursor}

theorem matcher_star (body : Regex) (cursor : Cursor) (next : Cursor → Option Cursor) :
    (star body).matcher cursor next =
      greedily body.matcher (cursor.after.length + 2) none none cursor next := rfl

theorem greedily_of_decided (decided : Decided body round) {last : Option Nat}
    (moved : last ≠ some cursor.position) (fuel : Nat) :
    greedily body.matcher (fuel + 1) none last cursor next =
      ((round cursor.after).bind fun found =>
        greedily body.matcher fuel none (some cursor.position)
          (cursor.past found.1 found.2) next).orElse fun _ => next cursor := by
  have may : mayRepeat none last cursor = true := by simp [mayRepeat, moved]
  simp only [greedily, if_pos may, decided.goes]
  rfl

theorem position_ne_past (decided : Decided body round) {found : List Char × List Char}
    (taken : round cursor.after = some found) :
    some cursor.position ≠ some (cursor.past found.1 found.2).position := by
  have nonempty := List.length_pos_iff.mpr (decided.splits _ _ taken).2
  rw [Cursor.past_position, ne_eq, Option.some.injEq]
  omega

/-- How many rounds more than there are characters are allowed makes no difference, nor where
    the last round began. -/
theorem greedily_congr (decided : Decided body round) {fuel other : Nat}
    {last before : Option Nat} (enough : cursor.after.length < fuel)
    (enoughToo : cursor.after.length < other) (moved : last ≠ some cursor.position)
    (movedToo : before ≠ some cursor.position) :
    greedily body.matcher fuel none last cursor next =
      greedily body.matcher other none before cursor next := by
  -- A round leaves fewer characters, and it has moved on, so both go on being enough.
  induction fuel generalizing other last before cursor with
  | zero => exact absurd enough (Nat.not_lt_zero _)
  | succ fuel ih =>
    cases other with
    | zero => exact absurd enoughToo (Nat.not_lt_zero _)
    | succ other =>
      rw [greedily_of_decided decided moved, greedily_of_decided decided movedToo]
      congr 1
      apply Option.bind_congr
      intro found taken
      have shorter := decided.splits.length_lt taken
      have apart := position_ne_past decided taken
      exact ih (Nat.lt_of_lt_of_le shorter (Nat.le_of_lt_succ enough))
        (Nat.lt_of_lt_of_le shorter (Nat.le_of_lt_succ enoughToo)) apart apart

/-- **A repetition of a decided body** makes a round if it can, goes on from there, and takes
    the round back if what follows does not match then. -/
theorem star_of_decided (decided : Decided body round) (cursor : Cursor)
    (next : Cursor → Option Cursor) :
    (star body).matcher cursor next =
      ((round cursor.after).bind fun found =>
        (star body).matcher (cursor.past found.1 found.2) next).orElse fun _ => next cursor := by
  rw [matcher_star, greedily_of_decided decided (by simp)]
  congr 1
  apply Option.bind_congr
  intro found taken
  have shorter := decided.splits.length_lt taken
  rw [matcher_star]
  apply greedily_congr decided
  · exact Nat.lt_succ_of_lt shorter
  · exact Nat.lt_add_of_pos_right (by decide)
  · exact position_ne_past decided taken
  · simp

/-- **Rounds that are never taken back**: where nothing that follows can begin at a place from
    which a round is possible, all rounds are made. -/
theorem star_of_committed (decided : Decided body round)
    (committed : ∀ place : Cursor, round place.after ≠ none → next place = none)
    (cursor : Cursor) :
    (star body).matcher cursor next =
      next (cursor.past (round.rounds cursor.after).1 (round.rounds cursor.after).2) := by
  induction ahead : cursor.after using decided.splits.induction generalizing cursor with
  | stop text refused =>
    rw [star_of_decided decided, ahead, refused, Cut.rounds_of_none refused, Cursor.past_nil ahead]
    rfl
  | step text found taken ih =>
    -- Taken back, this round would leave a place from which nothing follows.
    have possible : round cursor.after ≠ none := by simp [ahead, taken]
    have later := ih (cursor.past found.1 found.2) rfl
    rw [star_of_decided decided, ahead, taken, Option.bind_some, later,
      committed cursor possible, Cut.rounds_of_some decided.splits taken, Cursor.past_past,
      Option.orElse_eq_or, Option.or_none]

/-- Where nothing has to follow, all rounds are made. -/
theorem star_some (decided : Decided body round) (cursor : Cursor) :
    (star body).matcher cursor some =
      some (cursor.past (round.rounds cursor.after).1 (round.rounds cursor.after).2) := by
  induction ahead : cursor.after using decided.splits.induction generalizing cursor with
  | stop text refused =>
    rw [star_of_decided decided, ahead, refused, Cut.rounds_of_none refused, Cursor.past_nil ahead]
    rfl
  | step text found taken ih =>
    have later := ih (cursor.past found.1 found.2) rfl
    rw [star_of_decided decided, ahead, taken, Option.bind_some, later,
      Cut.rounds_of_some decided.splits taken, Cursor.past_past]
    rfl

/-- Whatever follows a repetition begins past a part of the text ahead. -/
theorem exists_past_of_star (decided : Decided body round) {cursor stop : Cursor}
    (reached : (star body).matcher cursor next = some stop) :
    ∃ taken rest, cursor.after = taken ++ rest ∧ next (cursor.past taken rest) = some stop := by
  induction ahead : cursor.after using decided.splits.induction generalizing cursor with
  | stop text refused =>
    rw [star_of_decided decided, ahead, refused] at reached
    exact ⟨[], text, rfl, by rwa [Cursor.past_nil ahead]⟩
  | step text found taken ih =>
    rw [star_of_decided decided, ahead, taken, Option.orElse_eq_or,
      Option.or_eq_some_iff] at reached
    rcases reached with later | ⟨-, here⟩
    · obtain ⟨more, rest, same, stopped⟩ := ih later rfl
      refine ⟨found.1 ++ more, rest, ?_, by rwa [← Cursor.past_past]⟩
      rw [List.append_assoc, ← same]
      exact (decided.splits _ _ taken).1
    · exact ⟨[], text, rfl, by rwa [Cursor.past_nil ahead]⟩

/-- **A loop**, where what follows begins with no further round. -/
theorem Decided.star_seq (decided : Decided body round) (decidedToo : Decided follow stop)
    (apart : round.Apart stop) : Decided (.seq (star body) follow) (round.loop stop) where
  goes cursor next := by
    rw [matcher_seq, star_of_committed decided]
    · rw [decidedToo.goes, Cursor.past_after, Cut.loop, Option.bind_map]
      simp only [Cursor.past_past]
      rfl
    · intro place begins
      rw [decidedToo.goes, apart _ begins]
      rfl
  splits := decided.splits.loop decidedToo.splits

end Star

/-! ### Ends -/

/-- Matching from a place can end at another one: it does, if nothing else is let pass. -/
def CanEnd (pattern : Regex) (start stop : Cursor) : Prop :=
  pattern.matcher start (fun reached => if reached = stop then some reached else none) = some stop

instance (pattern : Regex) (start stop : Cursor) : Decidable (pattern.CanEnd start stop) :=
  inferInstanceAs (Decidable (_ = _))

end FieldRules.Regex
