/-
  FieldRules/Proofs/Invocation/Pattern.lean
  =========================================
  **The scan for an invocation is its pattern, matched by backtracking.**

  An invocation can also be told by a pattern: blanks, a name, blanks, and between
  parentheses quotations and single characters.  A matcher of patterns takes back
  its choices, the scan does not.  They agree because the pattern leaves nothing to
  choose: no alternative begins with a character that another one begins with, and
  where a repetition can go on, what follows it cannot begin.  So each repetition is
  a loop (`star_of_committed`), the loops are the parts of the scan (`head?_eq_scan`),
  and up to the closing parenthesis the pattern goes one way, whatever follows
  (`matcher_pattern_cases`).  Only the blanks at the end can be given back, and with
  them neither the name nor the body changes.
-/
import FieldRules.Proofs.Invocation.Splitting
import FieldRules.Proofs.Regex.Matching
import FieldRules.Regex.Reader

namespace FieldRules.Invocation

open FieldRules.Text FieldRules.Regex

/-! ### The pattern -/

/-- The pattern of an invocation, as it is written. -/
def patternText : String :=
  "\\s*([A-Za-z][A-Za-z0-9_]*)\\s*\\(((?:'(?:\\\\.|[^'\\\\])*'|[^)'])*)\\)\\s*"

namespace Pattern

def blank : CharTest := { items := [.category .blank false false] }

def letter : CharTest := { items := [.range 0x41 0x5a, .range 0x61 0x7a] }

def nameChar : CharTest :=
  { items := [.range 0x41 0x5a, .range 0x61 0x7a, .range 0x30 0x39, .character 0x5f] }

def only (c : Char) : CharTest := .single c.toNat .exact

def other (excluded : List Char) : CharTest :=
  { items := excluded.map fun c => .character c.toNat, negated := true }

def quotedChar : Regex :=
  .alt (.seq (.char (only escapeMark)) (.char (other ['\n'])))
    (.char (other [quoteMark, escapeMark]))

def quotationRest : Regex := .seq (star quotedChar) (.char (only quoteMark))

def piece : Regex :=
  .alt (.seq (.char (only quoteMark)) quotationRest) (.char (other [')', quoteMark]))

/-- The body and the parenthesis that closes it, from inside of the parentheses. -/
def bodyAndClosing : Regex :=
  .seq (.capture 2 (star piece)) (.seq (.char (only ')')) (star (.char blank)))

def afterName : Regex := .seq (star (.char blank)) (.seq (.char (only '(')) bodyAndClosing)

def fromName : Regex :=
  .seq (.capture 1 (.seq (.char letter) (star (.char nameChar)))) afterName

end Pattern

def pattern : Regex := .seq (star (.char Pattern.blank)) Pattern.fromName

theorem parse_patternText : Regex.parse patternText = .ok pattern := by
  apply eq_ok_of_toOption
  decide +kernel

/-! ### The characters of the pattern -/

namespace Pattern

theorem admits_blank : blank.admits = isBlank := by
  funext c
  simp [blank, CharTest.admits, SetItem.admits, Category.admits]

theorem admits_letter : letter.admits = Name.isLetter := by
  funext c
  rw [Bool.eq_iff_iff, Name.isLetter_eq, Bool.or_eq_true, Name.isUpper_iff_toNat,
    Name.isLower_iff_toNat]
  simp [letter, CharTest.admits, SetItem.admits, CaseRule.variants]

theorem admits_nameChar : nameChar.admits = Name.isNameChar := by
  funext c
  have listed : nameChar.admits c = true ↔
      (0x41 ≤ c.toNat ∧ c.toNat ≤ 0x5a) ∨ (0x61 ≤ c.toNat ∧ c.toNat ≤ 0x7a) ∨
        (0x30 ≤ c.toNat ∧ c.toNat ≤ 0x39) ∨ 0x5f = c.toNat := by
    simp [nameChar, CharTest.admits, SetItem.admits, CaseRule.variants]
  have underscore : c.toNat = 0x5f ↔ c = '_' := Char.toNat_inj (d := '_')
  rw [Bool.eq_iff_iff, listed, Name.isNameChar_eq]
  simp only [Bool.or_eq_true, Name.isUpper_iff_toNat, Name.isLower_iff_toNat,
    Char.isDigit_iff_toNat, Char.reduceToNat, beq_iff_eq, ← underscore]
  omega

theorem admits_only (c : Char) : (only c).admits = (· == c) := by
  funext d
  rw [Bool.eq_iff_iff, beq_iff_eq, ← Char.toNat_inj]
  simp [only, CharTest.single, CharTest.admits, SetItem.admits, CaseRule.variants, eq_comm]

theorem admits_other (excluded : List Char) :
    (other excluded).admits = (!excluded.contains ·) := by
  funext d
  have listed : (excluded.map fun c => SetItem.character c.toNat).any
      (fun item => item.admits .exact d) = excluded.contains d := by
    rw [Bool.eq_iff_iff, List.contains_iff_mem]
    simp [SetItem.admits, CaseRule.variants, Char.toNat_inj]
  simp [other, CharTest.admits, listed]

theorem decided_only (c : Char) : Decided (.char (only c)) (Cut.character c) := by
  have decided := decided_char (only c)
  rwa [admits_only] at decided

theorem decided_other (excluded : List Char) :
    Decided (.char (other excluded)) (Cut.anyBut excluded) := by
  have decided := decided_char (other excluded)
  rwa [admits_other] at decided

theorem decided_blank : Decided (.char blank) (Cut.one isBlank) :=
  admits_blank ▸ decided_char blank

theorem decided_letter : Decided (.char letter) (Cut.one Name.isLetter) :=
  admits_letter ▸ decided_char letter

theorem decided_nameChar : Decided (.char nameChar) (Cut.one Name.isNameChar) :=
  admits_nameChar ▸ decided_char nameChar

end Pattern

/-! ### The pieces of a body -/

def quotedCut : Cut :=
  ((Cut.character escapeMark).append (Cut.anyBut ['\n'])).or
    (Cut.anyBut [quoteMark, escapeMark])

def quotationCut : Cut := quotedCut.loop (Cut.character quoteMark)

/-- A complete quotation, or one character other than a closing parenthesis and a quote. -/
def pieceCut : Cut :=
  ((Cut.character quoteMark).append quotationCut).or (Cut.anyBut [')', quoteMark])

/-- Where a quotation ends, none of its characters begins. -/
theorem quotedCut_apart : quotedCut.Apart (Cut.character quoteMark) := by
  apply Cut.Apart.or
  · apply Cut.Apart.append
    exact Cut.apart_character (by decide)
  · exact (Cut.apart_anyBut (by simp)).symm

/-- Where a body ends, no piece begins. -/
theorem pieceCut_apart : pieceCut.Apart (Cut.character ')') := by
  apply Cut.Apart.or
  · apply Cut.Apart.append
    exact Cut.apart_character (by decide)
  · exact (Cut.apart_anyBut (by simp)).symm

theorem decided_quotedChar : Decided Pattern.quotedChar quotedCut := by
  apply Decided.alt
  · exact (Pattern.decided_only _).seq (Pattern.decided_other _)
  · exact Pattern.decided_other _
  · apply Cut.Apart.append
    exact Cut.apart_anyBut (by simp)

theorem decided_quotationRest : Decided Pattern.quotationRest quotationCut :=
  decided_quotedChar.star_seq (Pattern.decided_only _) quotedCut_apart

theorem decided_piece : Decided Pattern.piece pieceCut := by
  apply Decided.alt
  · exact (Pattern.decided_only _).seq decided_quotationRest
  · exact Pattern.decided_other _
  · apply Cut.Apart.append
    exact Cut.apart_anyBut (by simp)

/-! ### The scan of a body takes pieces -/

theorem takeBody_quote (rest : List Char) :
    takeBody .outside (quoteMark :: rest) =
      (takeBody .inside rest).map (Cut.prefixed [quoteMark]) := rfl

theorem takeBody_free {c : Char} (free : c ≠ ')' ∧ c ≠ quoteMark) (rest : List Char) :
    takeBody .outside (c :: rest) = (takeBody .outside rest).map (Cut.prefixed [c]) := by
  simp only [takeBody, beq_iff_eq, free, if_false]
  rfl

theorem takeBody_inside_free {c : Char} (free : c ≠ quoteMark ∧ c ≠ escapeMark)
    (rest : List Char) :
    takeBody .inside (c :: rest) = (takeBody .inside rest).map (Cut.prefixed [c]) := by
  simp only [takeBody, beq_iff_eq, free, if_false]
  rfl

theorem takeBody_inside_escape {c : Char} (unbroken : c ≠ '\n') (rest : List Char) :
    takeBody .inside (escapeMark :: c :: rest) =
      (takeBody .inside rest).map (Cut.prefixed [escapeMark, c]) := by
  have notQuote : escapeMark ≠ quoteMark := by decide
  simp only [takeBody, beq_iff_eq, notQuote, unbroken, if_false, if_true, Option.map_map]
  rfl

theorem takeBody_inside_of_some {text : List Char} {found : List Char × List Char}
    (taken : quotedCut text = some found) :
    takeBody .inside text = (takeBody .inside found.2).map (Cut.prefixed found.1) := by
  rcases Option.or_eq_some_iff.mp taken with taken | ⟨-, taken⟩
  · obtain ⟨before, more, escapes, escaped, rfl⟩ := Cut.append_eq_some_iff.mp taken
    obtain ⟨d, rest, rfl, isEscape, rfl⟩ := Cut.one_eq_some_iff.mp escapes
    obtain ⟨c, rest, rfl, isOther, rfl⟩ := Cut.one_eq_some_iff.mp escaped
    obtain rfl := eq_of_beq isEscape
    exact takeBody_inside_escape (by simpa using isOther) rest
  · obtain ⟨c, rest, rfl, isOther, rfl⟩ := Cut.one_eq_some_iff.mp taken
    exact takeBody_inside_free (by simpa using isOther) rest

theorem takeBody_inside_of_none {text : List Char} (refused : quotedCut text = none) :
    takeBody .inside text = (Cut.character quoteMark).append (takeBody .outside) text := by
  obtain ⟨noEscape, noOther⟩ := Option.or_eq_none_iff.mp refused
  cases text with
  | nil => rfl
  | cons c rest =>
    by_cases quote : c = quoteMark
    · subst quote
      rfl
    · -- A backslash is left over where nothing, or a line feed, comes after it.
      have escape : c = escapeMark := by
        simpa [Cut.anyBut, Cut.one, quote] using noOther
      subst escape
      cases rest with
      | nil => rfl
      | cons d rest =>
        have broken : d = '\n' := by
          simpa [Cut.append, Cut.character, Cut.anyBut, Cut.one] using noEscape
        subst broken
        rfl

/-- Inside of a quotation the scan takes its characters, its closing quote, and the rest of
    the body. -/
theorem takeBody_inside : takeBody .inside = quotationCut.append (takeBody .outside) := by
  funext text
  rw [Cut.eq_rounds (takeBody .inside) _ decided_quotedChar.splits
    (fun _ _ => takeBody_inside_of_some) (fun _ => takeBody_inside_of_none)]
  simp only [quotationCut, Cut.loop, Cut.append, Option.bind_map, Option.map_bind]
  congr 1
  funext found
  simp

theorem takeBody_outside_of_some {text : List Char} {found : List Char × List Char}
    (taken : pieceCut text = some found) :
    takeBody .outside text = (takeBody .outside found.2).map (Cut.prefixed found.1) := by
  rcases Option.or_eq_some_iff.mp taken with taken | ⟨-, taken⟩
  · obtain ⟨before, more, opens, inner, rfl⟩ := Cut.append_eq_some_iff.mp taken
    obtain ⟨d, rest, rfl, isQuote, rfl⟩ := Cut.one_eq_some_iff.mp opens
    obtain rfl := eq_of_beq isQuote
    rw [takeBody_quote, takeBody_inside, Cut.append, inner, Option.bind_some, Option.map_map,
      Cut.prefixed_comp]
    rfl
  · obtain ⟨c, rest, rfl, isOther, rfl⟩ := Cut.one_eq_some_iff.mp taken
    exact takeBody_free (by simpa using isOther) rest

theorem takeBody_outside_of_none {text : List Char} (refused : pieceCut text = none) :
    takeBody .outside text = (Cut.character ')' text).map fun found => ([], found.2) := by
  obtain ⟨noQuotation, noOther⟩ := Option.or_eq_none_iff.mp refused
  cases text with
  | nil => rfl
  | cons c rest =>
    by_cases quote : c = quoteMark
    · subst quote
      have noRest : quotationCut rest = none := by
        simpa [Cut.append, Cut.character, Cut.one] using noQuotation
      rw [takeBody_quote, takeBody_inside, Cut.append, noRest]
      rfl
    · have closing : c = ')' := by
        simpa [Cut.anyBut, Cut.one, quote] using noOther
      subst closing
      rfl

/-- Outside of quotations the scan takes as many pieces as there are, and a closing
    parenthesis. -/
theorem takeBody_outside (text : List Char) :
    takeBody .outside text =
      (Cut.character ')' (pieceCut.rounds text).2).map fun found =>
        ((pieceCut.rounds text).1, found.2) := by
  rw [Cut.eq_rounds (takeBody .outside) _ decided_piece.splits
    (fun _ _ => takeBody_outside_of_some) (fun _ => takeBody_outside_of_none)]
  simp [Function.comp_def, Cut.prefixed]

/-! ### The scan for an invocation -/

/-- The invocation that a text begins with, from left to right: blanks are skipped, the longest
    name is taken, blanks are skipped, a parenthesis opens, as many pieces as there are are
    taken, a parenthesis closes, and blanks are skipped. -/
def scan (text : List Char) : Option Head :=
  (Cut.one Name.isLetter (trimStart text)).bind fun first =>
    (Cut.character '(' (trimStart (first.2.dropWhile Name.isNameChar))).bind fun opening =>
      (Cut.character ')' (pieceCut.rounds opening.2).2).map fun closing =>
        { blanks := text.length - (trimStart text).length
          name := first.1 ++ first.2.takeWhile Name.isNameChar
          body := (pieceCut.rounds opening.2).1
          rest := trimStart closing.2 }

theorem head?_eq_scan (text : List Char) : head? text = scan text := by
  rw [head?, scan]
  cases trimStart text with
  | nil => rfl
  | cons c rest =>
    simp only [Cut.one]
    split
    · simp only [Option.bind_some]
      cases trimStart (rest.dropWhile Name.isNameChar) with
      | nil => rfl
      | cons d inner =>
        by_cases opens : d = '('
        · subst opens
          simp only [Cut.character, Cut.one, beq_self_eq_true, if_true, Option.bind_some,
            takeBody_outside, Option.map_map]
          rfl
        · simp [Cut.character, Cut.one, opens]
    · rfl

theorem blank_apart_opening : (Cut.one isBlank).Apart (Cut.character '(') := by
  apply Cut.apart_one
  intro c blank
  apply Bool.eq_false_iff.mpr
  intro opens
  rw [eq_of_beq opens] at blank
  exact absurd blank (by decide)

theorem blank_apart_letter : (Cut.one isBlank).Apart (Cut.one Name.isLetter) := by
  apply Cut.apart_one
  intro c blank
  apply Bool.eq_false_iff.mpr
  intro letter
  simp [isBlank_of_isNameChar (isNameChar_of_isLetter letter)] at blank

section Layers

variable (cursor : Cursor) (next : Cursor → Option Cursor)

/-- No piece is taken back, since no closing parenthesis stands where a piece begins. -/
theorem matcher_bodyAndClosing :
    Pattern.bodyAndClosing.matcher cursor next =
      (Cut.character ')' (pieceCut.rounds cursor.after).2).bind fun closing =>
        (star (.char Pattern.blank)).matcher
          ((cursor.past ((pieceCut.rounds cursor.after).1 ++ closing.1) closing.2).record 2
            (pieceCut.rounds cursor.after).1) next := by
  have whole := (Cut.append_rounds decided_piece.splits cursor.after).symm
  rw [Pattern.bodyAndClosing, matcher_seq, matcher_capture, star_of_committed decided_piece]
  · rw [Cursor.take_past whole, matcher_seq, (Pattern.decided_only _).goes, Cursor.record_after,
      Cursor.past_after]
    simp only [Cursor.past_record, Cursor.past_past]
  · intro place begins
    rw [matcher_seq, (Pattern.decided_only _).goes, Cursor.record_after, pieceCut_apart _ begins]
    rfl

/-- No blank is taken back, since no parenthesis is one. -/
theorem matcher_afterName :
    Pattern.afterName.matcher cursor next =
      (Cut.character '(' (trimStart cursor.after)).bind fun opening =>
        Pattern.bodyAndClosing.matcher
          (cursor.past (cursor.after.takeWhile isBlank ++ opening.1) opening.2) next := by
  rw [Pattern.afterName, matcher_seq, star_of_committed Pattern.decided_blank]
  · rw [Cut.rounds_one, matcher_seq, (Pattern.decided_only _).goes, Cursor.past_after]
    simp only [Cursor.past_past]
    rfl
  · intro place begins
    rw [matcher_seq, (Pattern.decided_only _).goes, blank_apart_opening _ begins]
    rfl

theorem matcher_afterName_of_nameChar (begins : Cut.one Name.isNameChar cursor.after ≠ none) :
    Pattern.afterName.matcher cursor next = none := by
  obtain ⟨c, rest, ahead, isNameChar⟩ := Cut.one_ne_none_iff.mp begins
  have trimmed : trimStart (c :: rest) = c :: rest := by
    simp [trimStart, isBlank_of_isNameChar isNameChar]
  have noOpening : c ≠ '(' := by
    rintro rfl
    exact absurd isNameChar (by decide)
  rw [matcher_afterName, ahead, trimmed]
  simp [Cut.character, Cut.one, noOpening]

/-- No character of the name is taken back. -/
theorem matcher_fromName :
    Pattern.fromName.matcher cursor next =
      (Cut.one Name.isLetter cursor.after).bind fun first =>
        Pattern.afterName.matcher
          ((cursor.past (first.1 ++ first.2.takeWhile Name.isNameChar)
            (first.2.dropWhile Name.isNameChar)).record 1
              (first.1 ++ first.2.takeWhile Name.isNameChar)) next := by
  rw [Pattern.fromName, matcher_seq, matcher_capture, matcher_seq, Pattern.decided_letter.goes]
  apply Option.bind_congr
  intro first taken
  have whole : cursor.after = (first.1 ++ first.2.takeWhile Name.isNameChar) ++
      first.2.dropWhile Name.isNameChar := by
    rw [List.append_assoc, List.takeWhile_append_dropWhile]
    exact (Cut.splits_one _ _ _ taken).1
  -- The group keeps the name, since it ends where the characters of names do.
  rw [star_of_committed Pattern.decided_nameChar]
  · rw [Cursor.past_after, Cut.rounds_one, Cursor.past_past, Cursor.take_past whole]
  · intro place begins
    exact matcher_afterName_of_nameChar _ _ begins

/-- No blank before the name is taken back, since no letter is one. -/
theorem matcher_pattern :
    pattern.matcher cursor next =
      Pattern.fromName.matcher
        (cursor.past (cursor.after.takeWhile isBlank) (trimStart cursor.after)) next := by
  rw [pattern, matcher_seq, star_of_committed Pattern.decided_blank, Cut.rounds_one]
  · rfl
  · intro place begins
    rw [matcher_fromName, blank_apart_letter _ begins]
    rfl

end Layers

/-- **Up to the closing parenthesis the pattern goes the way of the scan**, whatever follows. -/
theorem matcher_pattern_cases (cursor : Cursor) :
    (scan cursor.after = none ∧ ∀ next, pattern.matcher cursor next = none) ∨
      ∃ head taken after, scan cursor.after = some head ∧ cursor.after = taken ++ after ∧
        head.rest = trimStart after ∧ ∀ next, pattern.matcher cursor next =
          (star (.char Pattern.blank)).matcher
            (((cursor.past taken after).record 1 head.name).record 2 head.body) next := by
  -- Written out, the layers and the scan make the same cuts one after the other.
  simp only [matcher_pattern, matcher_fromName, matcher_afterName, matcher_bodyAndClosing,
    Cursor.past_after, Cursor.record_after, Cursor.past_past, Cursor.past_record, scan]
  cases letter : Cut.one Name.isLetter (trimStart cursor.after) with
  | none => exact .inl ⟨rfl, fun _ => rfl⟩
  | some first =>
    simp only [Option.bind_some]
    cases opens : Cut.character '(' (trimStart (first.2.dropWhile Name.isNameChar)) with
    | none => exact .inl ⟨rfl, fun _ => rfl⟩
    | some opening =>
      simp only [Option.bind_some]
      cases closes : Cut.character ')' (pieceCut.rounds opening.2).2 with
      | none => exact .inl ⟨rfl, fun _ => rfl⟩
      | some closing =>
        refine .inr ⟨_, _, closing.2, rfl, ?_, rfl, fun next => rfl⟩
        have named := (Cut.splits_one _ _ _ letter).1
        have opened := (Cut.splits_one _ _ _ opens).1
        have closed := (Cut.splits_one _ _ _ closes).1
        have afterFirst : first.2 = first.2.takeWhile Name.isNameChar ++
            ((first.2.dropWhile Name.isNameChar).takeWhile isBlank ++ (opening.1 ++
              ((pieceCut.rounds opening.2).1 ++ (closing.1 ++ closing.2)))) := by
          rw [← closed, Cut.append_rounds decided_piece.splits, ← opened, trimStart,
            List.takeWhile_append_dropWhile, List.takeWhile_append_dropWhile]
        simp only [List.append_assoc]
        rw [← afterFirst, ← named, trimStart, List.takeWhile_append_dropWhile]

/-- The place that the scan ends at in a text, with what the groups of the pattern hold. -/
def Head.stop (text : List Char) (head : Head) : Cursor :=
  { Cursor.inText text (text.length - head.rest.length) with
    groups := [(2, head.body), (1, head.name)] }

theorem matchAt_pattern (text : List Char) (start : Nat) :
    pattern.matchAt (.inText text start) = (scan (text.drop start)).map (Head.stop text) := by
  have cases := matcher_pattern_cases (.inText text start)
  rw [Cursor.inText_after] at cases
  rcases cases with ⟨refused, fails⟩ | ⟨head, taken, after, found, ahead, rest, goes⟩
  · rw [matchAt, fails, refused]
    rfl
  · rw [matchAt, goes, star_some Pattern.decided_blank, found]
    simp only [Cursor.record_after, Cursor.past_after, Cursor.past_record, Cursor.past_past,
      Cut.rounds_one]
    have behind : (Cursor.inText text start).past (taken ++ after.takeWhile isBlank)
        (after.dropWhile isBlank) = .inText text (text.length - head.rest.length) := by
      rw [rest, trimStart]
      apply Cursor.past_inText
      rw [ahead, List.append_assoc, List.takeWhile_append_dropWhile]
    rw [behind]
    rfl

/-- Whatever way the pattern is matched, it ends with the name and the body of the scan. -/
theorem scan_of_canEnd {start stop : Cursor} (ends : pattern.CanEnd start stop) :
    ∃ head, scan start.after = some head ∧
      stop.groups.lookup 1 = some head.name ∧ stop.groups.lookup 2 = some head.body := by
  rcases matcher_pattern_cases start with ⟨-, fails⟩ | found
  · rw [CanEnd, fails] at ends
    cases ends
  · obtain ⟨head, taken, after, found, -, -, goes⟩ := found
    rw [CanEnd, goes] at ends
    obtain ⟨blanks, rest, -, reached⟩ := exists_past_of_star Pattern.decided_blank ends
    split at reached
    · next same =>
      rw [← same]
      exact ⟨head, found, by simp [Cursor.record, List.filter_cons, List.lookup_cons],
        by simp [Cursor.record]⟩
    · cases reached

/-! ### The rounds of the splitter -/

def Head.located (position : Nat) (head : Head) : Invocation where
  name := String.ofList head.name
  arguments := String.ofList (trim head.body)
  offset := position + head.blanks

/-- Where the splitter goes on after an invocation: past one comma and the blanks after it. -/
def resume (position : Nat) (text : List Char) (head : Head) :
    Except (SyntaxProblem × Nat) (Nat × List Char) :=
  let after := position + (text.length - head.rest.length)
  match head.rest with
  | ',' :: tail =>
    let following := trimStart tail
    let start := after + 1 + (tail.length - following.length)
    if following.isEmpty then .error (.trailingSeparator, start - 1) else .ok (start, following)
  | rest => .ok (after, rest)

/-- The split of a text in a number of rounds at most, of which each takes an invocation; `none`
    if there is one more to take.  At the end of the text, and where no invocation stands, the
    split is over without a further round. -/
def splitWithin : Nat → Nat → List Char → Option (Except (SyntaxProblem × Nat) (List Invocation))
  | limit, position, text =>
    if text.isEmpty then some (.ok [])
    else
      match head? text with
      | none => some (.error (.expectedInvocation, position))
      | some head =>
        match limit with
        | 0 => none
        | limit + 1 =>
          match resume position text head with
          | .error fault => some (.error fault)
          | .ok place =>
            (splitWithin limit place.1 place.2).map (·.map (head.located position :: ·))

section Rounds

variable {position : Nat} {text : List Char} {head : Head}

theorem isEmpty_of_head? (found : head? text = some head) : text.isEmpty = false := by
  cases text with
  | nil => cases found
  | cons _ _ => rfl

theorem splitFrom_of_head? (found : head? text = some head) :
    splitFrom position text = (resume position text head).bind fun place =>
      (splitFrom place.1 place.2).map (head.located position :: ·) := by
  rw [splitFrom, isEmpty_of_head? found, if_neg Bool.false_ne_true]
  split
  · next refused => cases refused.symm.trans found
  · next other found' =>
    obtain rfl : head = other := Option.some.inj (found.symm.trans found')
    split
    · next tail comma =>
      simp only [resume, comma]
      split
      · rfl
      · rfl
    · next noComma =>
      have goesOn : resume position text head =
          .ok (position + (text.length - head.rest.length), head.rest) := by
        unfold resume
        split
        · next tail comma => exact absurd comma (noComma tail)
        · rfl
      rw [goesOn]
      rfl

/-- **A round takes three characters at least.** -/
theorem length_of_resume (found : head? text = some head) {place : Nat × List Char}
    (goesOn : resume position text head = .ok place) : place.2.length + 3 ≤ text.length := by
  have shorter := length_rest_head?_lt found
  unfold resume at goesOn
  split at goesOn
  · next tail comma =>
    simp only at goesOn
    split at goesOn
    · cases goesOn
    · cases goesOn
      have trimmed := length_trimStart_le tail
      rw [comma, List.length_cons] at shorter
      show (trimStart tail).length + 3 ≤ text.length
      omega
  · next noComma =>
    cases goesOn
    exact shorter

/-- A text that begins with no invocation takes no round. -/
theorem splitWithin_of_none (limit : Nat) (refused : head? text = none) :
    splitWithin limit position text = some (splitFrom position text) := by
  by_cases empty : text = []
  · subst empty
    rw [splitFrom_nil, splitWithin]
    rfl
  · rw [splitFrom_of_head?_eq_none position empty refused, splitWithin, refused,
      if_neg (by simpa using empty)]

/-- **The rounds of the splitter**: as many as a third of the characters are enough. -/
theorem splitWithin_eq_some {limit : Nat} (enough : text.length < 3 * limit + 3) :
    splitWithin limit position text = some (splitFrom position text) := by
  induction limit generalizing position text with
  | zero =>
    cases found : head? text with
    | none => exact splitWithin_of_none 0 found
    | some head =>
      have shorter := length_rest_head?_lt found
      omega
  | succ limit ih =>
    cases found : head? text with
    | none => exact splitWithin_of_none (limit + 1) found
    | some head =>
      rw [splitFrom_of_head? found, splitWithin, isEmpty_of_head? found,
        if_neg Bool.false_ne_true, found]
      cases goesOn : resume position text head with
      | error fault => simp only [goesOn]; rfl
      | ok place =>
        have shorter := length_of_resume found goesOn
        have later : splitWithin limit place.1 place.2 = some (splitFrom place.1 place.2) :=
          ih (by omega)
        simp only [goesOn, later]
        rfl

end Rounds

/-! ### No second way -/

theorem blanks_text_append_inj {before before' : Blanks} {written other : Written}
    {rest rest' : List Char}
    (same : before.chars ++ (written.text ++ rest) = before'.chars ++ (other.text ++ rest')) :
    before = before' ∧ written = other ∧ rest = rest' := by
  obtain ⟨sameBlanks, sameLater⟩ :=
    Run.append_inj same (written.stops_text rest) (other.stops_text rest')
  exact ⟨sameBlanks, Written.text_append_inj sameLater⟩

theorem add_three_le_of_matchAt {text : List Char} {start : Nat} {stop : Cursor}
    (ends : pattern.matchAt (.inText text start) = some stop) : start + 3 ≤ stop.position := by
  rw [matchAt_pattern, Option.map_eq_some_iff] at ends
  obtain ⟨head, found, rfl⟩ := ends
  rw [← head?_eq_scan] at found
  have shorter := length_rest_head?_lt found
  rw [List.length_drop] at shorter
  show start + 3 ≤ min (text.length - head.rest.length) text.length
  omega

/-- **The pattern of an invocation needs no backtracking**: it matches as the scan does, there is
    no second way to read what it matches, and a text is split in at most as many rounds as a
    third of its characters. -/
theorem pattern_needs_no_backtracking :
    Regex.parse patternText = .ok pattern ∧
    -- From each place of each text it matches what the scan takes, up to the same place.
    (∀ text start, pattern.matchAt (.inText text start) =
      (scan (text.drop start)).map (Head.stop text)) ∧
    head? = scan ∧
    -- Whatever is taken back, the name and the body are those of the scan.
    (∀ start stop, pattern.CanEnd start stop →
      ∃ head, scan start.after = some head ∧
        stop.groups.lookup 1 = some head.name ∧ stop.groups.lookup 2 = some head.body) ∧
    (∀ (before before' : Blanks) (written other : Written) (rest rest' : List Char),
      before.chars ++ (written.text ++ rest) = before'.chars ++ (other.text ++ rest') →
        before = before' ∧ written = other ∧ rest = rest') ∧
    -- Three characters are gone after a match, and so the rounds of the splitter are few.
    (∀ text start stop, pattern.matchAt (.inText text start) = some stop →
      start + 3 ≤ stop.position) ∧
    ∀ text : String,
      splitWithin (text.toList.length / 3) (text.toList.length - (trimStart text.toList).length)
          (trimStart text.toList) =
        some (splitFrom (text.toList.length - (trimStart text.toList).length)
          (trimStart text.toList)) := by
  refine ⟨parse_patternText, matchAt_pattern, funext head?_eq_scan, fun _ _ => scan_of_canEnd,
    fun _ _ _ _ _ _ => blanks_text_append_inj, fun _ _ _ => add_three_le_of_matchAt, ?_⟩
  intro text
  have shorter := length_trimStart_le text.toList
  exact splitWithin_eq_some (by omega)

theorem pattern_needs_no_backtracking_quoted_closing :
    pattern.CanEnd (.inText "a f(')') b".toList 1)
      { Cursor.inText "a f(')') b".toList 8 with groups := [(2, "')'".toList), (1, ['f'])] } ∧
    (∃ head, scan " f(')') b".toList = some head ∧
      some ['f'] = some head.name ∧ some "')'".toList = some head.body) ∧
    pattern.matchAt (.inText "a f(')') b".toList 1) =
      some { Cursor.inText "a f(')') b".toList 9 with
        groups := [(2, "')'".toList), (1, ['f'])] } ∧
    1 + 3 ≤ 9 ∧
    ∀ written : Written, written.text = "f(')')".toList → written.name = ['f'] := by
  obtain ⟨-, -, -, ways, one, three, -⟩ := pattern_needs_no_backtracking
  have ends : pattern.CanEnd (.inText "a f(')') b".toList 1)
      { Cursor.inText "a f(')') b".toList 8 with groups := [(2, "')'".toList), (1, ['f'])] } := by
    decide +kernel
  have first : pattern.matchAt (.inText "a f(')') b".toList 1) =
      some { Cursor.inText "a f(')') b".toList 9 with
        groups := [(2, "')'".toList), (1, ['f'])] } := by
    decide +kernel
  refine ⟨ends, ways _ _ ends, first, three _ _ _ first, ?_⟩
  intro written same
  let quoted : Piece := .quoted [.plain ')' (by decide)] (by decide)
  let read : Written := ⟨['f'], by decide, Run.empty, [quoted]⟩
  have sameText : (Run.empty : Blanks).chars ++ (written.text ++ []) =
      (Run.empty : Blanks).chars ++ (read.text ++ []) := by
    rw [same]
    decide
  rw [(one _ _ _ _ _ _ sameText).2.1]

end FieldRules.Invocation
