/-
  FieldRules/Proofs/CommandLine/Markup.lean
  =========================================
  **Text from outside is shown behind a title as it is shown alone.**

  Marked-up text is gone through from left to right: past some backslashes there
  is the end, a tag, a bracket that opens no tag, or another character.  Escaping
  (`Escapes`) goes the same way and doubles the backslashes in front of a tag, with
  one more; all else it leaves as it is.  Going through what comes out one meets
  the same tags, each behind an odd number of backslashes, so that all are shown
  and none is obeyed.  Nothing can go wrong in showing escaped text
  (`exists_shown?_escape`), and a title in front of it, with a tag of its own that is
  ended, adds itself and nothing else (`shown?_titled`).
-/
import FieldRules.CommandLine.Markup
import FieldRules.Proofs.Text.Run

namespace FieldRules.CommandLine.Markup

open FieldRules.Text

/-! ### Backslashes and tags -/

abbrev slashes (count : Nat) : List Char := List.replicate count '\x5c'

def IsTag (inside : List Char) : Prop :=
  ∃ first more, inside = first :: more ∧ beginsTag first = true ∧
    ∀ c ∈ more, (c != ']' && c != '[') = true

variable {count fuel fuel' : Nat} {inside text rest more out found : List Char} {c : Char}

@[simp] theorem takeWhile_slashes_cons (noSlash : c ≠ '\x5c') :
    (slashes count ++ c :: more).takeWhile (· == '\x5c') = slashes count :=
  Run.takeWhile_append ⟨slashes count, by simp⟩ (by simpa using noSlash)

@[simp] theorem dropWhile_slashes_cons (noSlash : c ≠ '\x5c') :
    (slashes count ++ c :: more).dropWhile (· == '\x5c') = c :: more :=
  Run.dropWhile_append ⟨slashes count, by simp⟩ (by simpa using noSlash)

theorem exists_slashes (text : List Char) :
    ∃ count rest, text = slashes count ++ rest ∧ Stops (· == '\x5c') rest := by
  let run := Run.leading (· == '\x5c') text
  have same : run.chars = slashes run.chars.length :=
    List.eq_replicate_of_mem fun c member => by simpa using run.all c member
  refine ⟨run.chars.length, text.dropWhile (· == '\x5c'), ?_, Run.stops_dropWhile text⟩
  rw [← same, Run.leading_append_dropWhile]

theorem tagInside?_eq_some_iff :
    tagInside? text = some (inside, rest) ↔ IsTag inside ∧ text = inside ++ ']' :: rest := by
  constructor
  · intro opens
    cases text with
    | nil => cases opens
    | cons first more =>
      rw [tagInside?] at opens
      split at opens
      · next begins isRest =>
        cases opens
        let run := Run.leading (fun c => c != ']' && c != '[') more
        refine ⟨⟨first, run.chars, rfl, begins, run.all⟩, ?_⟩
        rw [List.cons_append, ← isRest]
        exact congrArg _ (Run.leading_append_dropWhile more).symm
      · cases opens
  · rintro ⟨⟨first, more, rfl, begins, plain⟩, rfl⟩
    let run : Run fun c => c != ']' && c != '[' := ⟨more, plain⟩
    have stops : Stops (fun c => c != ']' && c != '[') (']' :: rest) := rfl
    rw [List.cons_append, tagInside?, begins, run.takeWhile_append stops,
      run.dropWhile_append stops]
    rfl

theorem tagInside?_of_isTag (isTag : IsTag inside) :
    tagInside? (inside ++ ']' :: rest) = some (inside, rest) :=
  tagInside?_eq_some_iff.mpr ⟨isTag, rfl⟩

theorem not_mem_of_isTag (isTag : IsTag inside) : '[' ∉ inside := by
  obtain ⟨first, more, rfl, begins, plain⟩ := isTag
  intro member
  rcases List.mem_cons.mp member with rfl | later
  · exact absurd begins (by decide)
  · exact absurd (plain _ later) (by decide)

/-! ### What comes of escaping -/

/-- A text, and the text in which all its tags are escaped. -/
inductive Escapes : List Char → List Char → Prop
  | ending (count : Nat) : Escapes (slashes count) (slashes count)
  | tag (count : Nat) {inside rest out : List Char} (isTag : IsTag inside)
      (later : Escapes rest out) :
      Escapes (slashes count ++ '[' :: (inside ++ ']' :: rest))
        (slashes (2 * count + 1) ++ '[' :: (inside ++ ']' :: out))
  | bracket (count : Nat) {more out : List Char} (opensNone : tagInside? more = none)
      (later : Escapes more out) :
      Escapes (slashes count ++ '[' :: more) (slashes count ++ '[' :: out)
  | char (count : Nat) {c : Char} {more out : List Char} (noSlash : c ≠ '\x5c')
      (noBracket : c ≠ '[') (later : Escapes more out) : Escapes (slashes count ++ c :: more) (slashes count ++ c :: out)

/-- Every text is gone through in one of these ways. -/
theorem exists_escapes (text : List Char) : ∃ out, Escapes text out := by
  -- by length: what follows is the text behind a whole tag, not a tail of one constructor
  induction size : text.length using Nat.strongRecOn generalizing text with
  | _ size shorter =>
    subst size
    obtain ⟨count, rest, rfl, stops⟩ := exists_slashes text
    cases rest with
    | nil => exact ⟨_, by simpa using .ending count⟩
    | cons c more =>
      have isShorter : more.length < (slashes count ++ c :: more).length := by simp; omega
      obtain ⟨out, later⟩ := shorter _ isShorter more rfl
      by_cases isBracket : c = '['
      · subst isBracket
        cases opens : tagInside? more with
        | none => exact ⟨_, .bracket count opens later⟩
        | some pair =>
          obtain ⟨inside, rest⟩ := pair
          obtain ⟨isTag, rfl⟩ := tagInside?_eq_some_iff.mp opens
          obtain ⟨out, later⟩ := shorter _ (by simp; omega) rest rfl
          exact ⟨_, .tag count isTag later⟩
      · exact ⟨_, .char count (by simpa using stops_cons.mp stops) isBracket later⟩

theorem escapeFrom_slashes (more : 0 < fuel) :
    escapeFrom fuel found (slashes count) = found.reverse ++ slashes count := by
  obtain ⟨fuel, rfl⟩ := Nat.exists_eq_add_of_lt more
  simp [escapeFrom]

theorem escapeFrom_tag (enough : 0 < fuel) (isTag : IsTag inside) :
    escapeFrom fuel found (slashes count ++ '[' :: (inside ++ ']' :: rest)) =
      escapeFrom (fuel - 1) (']' :: inside.reverse ++ '[' :: slashes (2 * count + 1) ++ found)
        rest := by
  obtain ⟨fuel, rfl⟩ := Nat.exists_eq_add_of_lt enough
  simp [escapeFrom, tagInside?_of_isTag isTag, List.replicate_succ, Nat.two_mul,
    ← List.replicate_append_replicate]

theorem escapeFrom_bracket (enough : 0 < fuel) (opensNone : tagInside? more = none) :
    escapeFrom fuel found (slashes count ++ '[' :: more) =
      escapeFrom (fuel - 1) ('[' :: slashes count ++ found) more := by
  obtain ⟨fuel, rfl⟩ := Nat.exists_eq_add_of_lt enough
  simp [escapeFrom, opensNone]

theorem escapeFrom_char (enough : 0 < fuel) (noSlash : c ≠ '\x5c') (noBracket : c ≠ '[') :
    escapeFrom fuel found (slashes count ++ c :: more) =
      escapeFrom (fuel - 1) (c :: slashes count ++ found) more := by
  obtain ⟨fuel, rfl⟩ := Nat.exists_eq_add_of_lt enough
  simp [escapeFrom, noSlash]

theorem escapeFrom_eq (escapes : Escapes text out) (enough : text.length < fuel) :
    escapeFrom fuel found text = found.reverse ++ out := by
  induction escapes generalizing fuel found with
  | ending count => exact escapeFrom_slashes (Nat.zero_lt_of_lt enough)
  | tag count isTag later ih =>
    simp only [List.length_append, List.length_cons] at enough
    rw [escapeFrom_tag (by omega) isTag, ih (by omega)]
    simp
  | bracket count opensNone later ih =>
    simp only [List.length_append, List.length_cons] at enough
    rw [escapeFrom_bracket (by omega) opensNone, ih (by omega)]
    simp
  | char count noSlash noBracket later ih =>
    simp only [List.length_append, List.length_cons] at enough
    rw [escapeFrom_char (by omega) noSlash noBracket, ih (by omega)]
    simp

theorem toList_escape {text : String} (escapes : Escapes text.toList out) :
    (escape text).toList = out := by
  rw [escape, escapeFrom_eq escapes (Nat.lt_succ_self _)]
  simp

theorem escapes_escape (text : String) : Escapes text.toList (escape text).toList := by
  obtain ⟨out, escapes⟩ := exists_escapes text.toList
  rwa [toList_escape escapes]

/-! ### Going through marked-up text -/

theorem piecesFrom_slashes (enough : 0 < fuel) :
    piecesFrom fuel found (slashes count) = [.text (found.reverse ++ slashes count)] := by
  obtain ⟨fuel, rfl⟩ := Nat.exists_eq_add_of_lt enough
  simp [piecesFrom]

theorem piecesFrom_tag (enough : 0 < fuel) (isTag : IsTag inside) :
    piecesFrom fuel found (slashes count ++ '[' :: (inside ++ ']' :: rest)) =
      .text found.reverse :: tagPieces count inside ++ piecesFrom (fuel - 1) [] rest := by
  obtain ⟨fuel, rfl⟩ := Nat.exists_eq_add_of_lt enough
  simp [piecesFrom, tagInside?_of_isTag isTag]

theorem piecesFrom_bracket (enough : 0 < fuel) (opensNone : tagInside? more = none) :
    piecesFrom fuel found (slashes count ++ '[' :: more) =
      piecesFrom (fuel - 1) ('[' :: slashes count ++ found) more := by
  obtain ⟨fuel, rfl⟩ := Nat.exists_eq_add_of_lt enough
  simp [piecesFrom, opensNone]

theorem piecesFrom_char (enough : 0 < fuel) (noSlash : c ≠ '\x5c') (noBracket : c ≠ '[') :
    piecesFrom fuel found (slashes count ++ c :: more) =
      piecesFrom (fuel - 1) (c :: slashes count ++ found) more := by
  obtain ⟨fuel, rfl⟩ := Nat.exists_eq_add_of_lt enough
  simp [piecesFrom, noSlash]

theorem piecesFrom_eq_of_lt (enough : text.length < fuel) (enough' : text.length < fuel') :
    piecesFrom fuel found text = piecesFrom fuel' found text := by
  obtain ⟨out, escapes⟩ := exists_escapes text
  induction escapes generalizing fuel fuel' found with
  | ending count =>
    rw [piecesFrom_slashes (Nat.zero_lt_of_lt enough),
      piecesFrom_slashes (Nat.zero_lt_of_lt enough')]
  | tag count isTag later ih =>
    simp only [List.length_append, List.length_cons] at enough enough'
    rw [piecesFrom_tag (by omega) isTag, piecesFrom_tag (by omega) isTag,
      @ih (fuel - 1) (fuel' - 1) [] (by omega) (by omega)]
  | bracket count opensNone later ih =>
    simp only [List.length_append, List.length_cons] at enough enough'
    rw [piecesFrom_bracket (by omega) opensNone, piecesFrom_bracket (by omega) opensNone]
    exact ih (by omega) (by omega)
  | char count noSlash noBracket later ih =>
    simp only [List.length_append, List.length_cons] at enough enough'
    rw [piecesFrom_char (by omega) noSlash noBracket, piecesFrom_char (by omega) noSlash noBracket]
    exact ih (by omega) (by omega)

/-- The parts of marked-up text behind the characters of a part (latest first). -/
def piecesBehind (found text : List Char) : List Piece := piecesFrom (text.length + 1) found text

theorem pieces_eq_piecesBehind : pieces text = piecesBehind [] text := rfl

theorem piecesBehind_slashes :
    piecesBehind found (slashes count) = [.text (found.reverse ++ slashes count)] :=
  piecesFrom_slashes (Nat.succ_pos _)

theorem piecesBehind_tag (isTag : IsTag inside) :
    piecesBehind found (slashes count ++ '[' :: (inside ++ ']' :: rest)) =
      .text found.reverse :: tagPieces count inside ++ pieces rest := by
  rw [piecesBehind, piecesFrom_tag (Nat.succ_pos _) isTag,
    piecesFrom_eq_of_lt (by simp; omega) (Nat.lt_succ_self _), pieces]

theorem piecesBehind_bracket (opensNone : tagInside? more = none) :
    piecesBehind found (slashes count ++ '[' :: more) =
      piecesBehind ('[' :: slashes count ++ found) more := by
  rw [piecesBehind, piecesFrom_bracket (Nat.succ_pos _) opensNone,
    piecesFrom_eq_of_lt (by simp; omega) (Nat.lt_succ_self _), piecesBehind]

theorem piecesBehind_char (noSlash : c ≠ '\x5c') (noBracket : c ≠ '[') :
    piecesBehind found (slashes count ++ c :: more) =
      piecesBehind (c :: slashes count ++ found) more := by
  rw [piecesBehind, piecesFrom_char (Nat.succ_pos _) noSlash noBracket,
    piecesFrom_eq_of_lt (by simp; omega) (Nat.lt_succ_self _), piecesBehind]

/-! ### Showing what was escaped -/

/-- Where a closing bracket stands behind backslashes and a character. -/
theorem exists_append_of_slashes (same : slashes count ++ c :: more = inside ++ ']' :: rest) :
    (∃ later, inside = slashes count ++ c :: later ∧ more = later ++ ']' :: rest) ∨
      c = ']' ∧ inside = slashes count := by
  induction count generalizing inside with
  | zero =>
    cases inside with
    | nil =>
      obtain ⟨isClosing, -⟩ := List.cons.inj same
      exact .inr ⟨isClosing, rfl⟩
    | cons first later =>
      obtain ⟨rfl, isRest⟩ := List.cons.inj same
      exact .inl ⟨later, rfl, isRest⟩
  | succ count ih =>
    cases inside with
    | nil => exact absurd (List.cons.inj same).1 (by decide)
    | cons first later =>
      obtain ⟨rfl, isRest⟩ := List.cons.inj same
      rcases ih isRest with ⟨last, rfl, isMore⟩ | ⟨isClosing, rfl⟩
      · exact .inl ⟨last, rfl, isMore⟩
      · exact .inr ⟨isClosing, rfl⟩

/-- What stands before a closing bracket stood before one already. -/
theorem exists_append_of_escapes (escapes : Escapes text out) (plain : '[' ∉ inside)
    (closes : out = inside ++ ']' :: rest) : ∃ later, text = inside ++ ']' :: later := by
  induction escapes generalizing inside with
  | ending count => exact ⟨rest, closes⟩
  -- an opening bracket comes first, and would stand before the closing one
  | tag count isTag later ih | bracket count opensNone later ih =>
    rcases exists_append_of_slashes closes with ⟨last, rfl, -⟩ | ⟨never, -⟩
    · simp at plain
    · exact absurd never (by decide)
  | char count noSlash noBracket later ih =>
    rcases exists_append_of_slashes closes with ⟨last, rfl, isMore⟩ | ⟨rfl, rfl⟩
    · obtain ⟨after, rfl⟩ := ih (fun member => plain (by simp [member])) isMore
      exact ⟨after, by simp⟩
    · exact ⟨_, rfl⟩

theorem tagInside?_eq_none_of_escapes (escapes : Escapes text out)
    (opensNone : tagInside? text = none) : tagInside? out = none := by
  rw [Option.eq_none_iff_forall_ne_some] at opensNone ⊢
  rintro ⟨inside, rest⟩ opens
  obtain ⟨isTag, isOut⟩ := tagInside?_eq_some_iff.mp opens
  obtain ⟨later, isText⟩ := exists_append_of_escapes escapes (not_mem_of_isTag isTag) isOut
  exact opensNone _ (tagInside?_eq_some_iff.mpr ⟨isTag, isText⟩)

def AllText (parts : List Piece) : Prop := ∀ part ∈ parts, ∃ chars, part = .text chars

theorem tagPieces_odd : tagPieces (2 * count + 1) inside =
    [.text (slashes count), .text ('[' :: inside ++ [']'])] := by
  have half : (2 * count + 1) / 2 = count := by omega
  have odd : (2 * count + 1) % 2 = 1 := by omega
  simp [tagPieces, half, odd]

/-- **Nothing of what was escaped is obeyed.** -/
theorem allText_of_escapes (escapes : Escapes text out) : AllText (piecesBehind found out) := by
  induction escapes generalizing found with
  | ending count =>
    rw [piecesBehind_slashes]
    simp [AllText]
  | tag count isTag later ih =>
    rw [piecesBehind_tag isTag, tagPieces_odd]
    simpa [AllText, pieces_eq_piecesBehind] using @ih []
  | bracket count opensNone later ih =>
    -- the bracket must not begin a tag with what escaping has put behind it
    rw [piecesBehind_bracket (tagInside?_eq_none_of_escapes later opensNone)]
    exact ih
  | char count noSlash noBracket later ih =>
    rw [piecesBehind_char noSlash noBracket]
    exact ih

theorem exists_shownFrom_of_allText {opened : List (List Char)} {parts : List Piece}
    (allText : AllText parts) : ∃ shown, shownFrom opened parts = some shown := by
  induction parts with
  | nil => exact ⟨[], rfl⟩
  | cons part later ih =>
    rw [AllText, List.forall_mem_cons] at allText
    obtain ⟨⟨chars, rfl⟩, allLater⟩ := allText
    obtain ⟨shown, isShown⟩ := ih allLater
    exact ⟨draw chars ++ shown, by rw [shownFrom, isShown]; rfl⟩

/-- **Escaped text can be shown.** -/
theorem exists_shown?_escape (text : String) : ∃ shown, shown? (escape text) = some shown := by
  have allText := @allText_of_escapes _ _ [] (escapes_escape text)
  obtain ⟨shown, isShown⟩ := @exists_shownFrom_of_allText [] _ allText
  exact ⟨String.ofList shown, by rw [shown?, pieces_eq_piecesBehind, isShown]; rfl⟩

example : shown? (escape "[red] a\\[b]") = some "[red] a\\[b]" := by decide +kernel

/-! ### Characters in front -/

/-- A character that stands for itself wherever it is. -/
def IsPlain (c : Char) : Prop := c ≠ '\x5c' ∧ c ≠ '[' ∧ c ≠ ':'

theorem draw_nil : draw [] = [] := rfl

theorem draw_cons (plain : IsPlain c) : draw (c :: text) = c :: draw text := by
  obtain ⟨noSlash, -, noColon⟩ := plain
  have same : dropBracketEscapes (c :: text) = c :: dropBracketEscapes text := by
    rw [dropBracketEscapes]
    exact fun _ isSlash _ => noSlash isSlash
  rw [draw, draw, same]
  simp [drawFrom, noColon]

theorem shownFrom_piecesBehind_concat {opened : List (List Char)} (plain : IsPlain c) :
    shownFrom opened (piecesBehind (found ++ [c]) text) =
      (shownFrom opened (piecesBehind found text)).map (c :: ·) := by
  obtain ⟨out, escapes⟩ := exists_escapes text
  induction escapes generalizing found with
  | ending count =>
    rw [piecesBehind_slashes, piecesBehind_slashes]
    simp [shownFrom, draw_cons plain]
  | tag count isTag later ih =>
    rw [piecesBehind_tag isTag, piecesBehind_tag isTag]
    simp [shownFrom, draw_cons plain, Function.comp_def]
  | bracket count opensNone later ih =>
    rw [piecesBehind_bracket opensNone, piecesBehind_bracket opensNone, ← List.append_assoc]
    exact ih
  | char count noSlash noBracket later ih =>
    rw [piecesBehind_char noSlash noBracket, piecesBehind_char noSlash noBracket,
      ← List.append_assoc]
    exact ih

theorem shownFrom_pieces_cons {opened : List (List Char)} (plain : IsPlain c) :
    shownFrom opened (pieces (c :: text)) = (shownFrom opened (pieces text)).map (c :: ·) := by
  have behind := @piecesBehind_char 0 text [] c plain.1 plain.2.1
  rw [pieces_eq_piecesBehind, pieces_eq_piecesBehind, ← shownFrom_piecesBehind_concat plain]
  exact congrArg _ behind

/-- Escaped text begins on the screen as it does itself. -/
theorem exists_shown?_escape_of_head? {text : String} (plain : IsPlain c)
    (begins : text.toList.head? = some c) :
    ∃ shown, shown? (escape text) = some shown ∧ shown.toList.head? = some c := by
  obtain ⟨more, isText⟩ := List.head?_eq_some_iff.mp begins
  obtain ⟨out, later⟩ := exists_escapes more
  have escapes : Escapes text.toList (c :: out) := by
    rw [isText]
    exact .char 0 plain.1 plain.2.1 later
  obtain ⟨shown, isShown⟩ := @exists_shownFrom_of_allText [] _ (@allText_of_escapes _ _ [] later)
  refine ⟨String.ofList (c :: shown), ?_, by simp⟩
  rw [shown?, toList_escape escapes, shownFrom_pieces_cons plain, pieces_eq_piecesBehind, isShown]
  rfl

/-! ### A title -/

/-- A character that neither opens a tag nor stands in front of one. -/
def isBare (c : Char) : Bool := c != '\x5c' && c != '['

theorem piecesBehind_append {title : List Char} (bare : ∀ c ∈ title, isBare c = true) :
    piecesBehind found (title ++ text) = piecesBehind (title.reverse ++ found) text := by
  induction title generalizing found with
  | nil => rfl
  | cons c later ih =>
    rw [List.forall_mem_cons] at bare
    obtain ⟨noSlash, noBracket⟩ : c ≠ '\x5c' ∧ c ≠ '[' := by simpa [isBare] using bare.1
    have first := @piecesBehind_char 0 (later ++ text) found c noSlash noBracket
    rw [List.cons_append, List.reverse_cons, List.append_assoc]
    exact first.trans (ih bare.2)

theorem shownFrom_tag {opened : List (List Char)} (isTag : IsTag inside) :
    shownFrom opened (piecesBehind found ('[' :: (inside ++ ']' :: rest))) =
      (enter opened inside).bind fun entered =>
        (shownFrom entered (pieces rest)).map (draw found.reverse ++ ·) := by
  have first := @piecesBehind_tag 0 inside rest found isTag
  rw [show '[' :: (inside ++ ']' :: rest) = slashes 0 ++ '[' :: (inside ++ ']' :: rest) from rfl,
    first]
  cases entered : enter opened inside <;> simp [tagPieces, shownFrom, entered, draw_nil]

/-- **Text behind a title is shown behind it as it is shown alone.** -/
theorem shown?_titled {title : String} (bare : title.toList.all isBare = true)
    (stays : draw title.toList = title.toList) (markup : String) :
    shown? (coloured "red" title ++ " " ++ markup) =
      (shown? markup).map (title ++ " " ++ ·) := by
  have isTag : IsTag "red".toList := ⟨'r', _, rfl, by decide, List.all_eq_true.mp (by decide)⟩
  have isEnding : IsTag "/red".toList := ⟨'/', _, rfl, by decide, List.all_eq_true.mp (by decide)⟩
  have opens : enter [] "red".toList = some ["red".toList] := by decide +kernel
  have ends : enter ["red".toList] "/red".toList = some [] := by decide +kernel
  have blank : IsPlain ' ' := ⟨by decide, by decide, by decide⟩
  have written : (coloured "red" title ++ " " ++ markup).toList =
      '[' :: ("red".toList ++ ']' :: (title.toList ++ '[' ::
        ("/red".toList ++ ']' :: ' ' :: markup.toList))) := by
    simp [coloured]
  have toTitle := @piecesBehind_append ('[' :: ("/red".toList ++ ']' :: ' ' :: markup.toList)) []
    title.toList (List.all_eq_true.mp bare)
  calc shown? (coloured "red" title ++ " " ++ markup)
      = ((shownFrom ["red".toList] (piecesBehind title.toList.reverse
          ('[' :: ("/red".toList ++ ']' :: ' ' :: markup.toList)))).map
            (draw [] ++ ·)).map String.ofList := by
        rw [shown?, written, pieces_eq_piecesBehind, shownFrom_tag isTag, opens, Option.bind_some,
          pieces_eq_piecesBehind, toTitle, List.append_nil, List.reverse_nil]
    _ = ((shownFrom [] (pieces (' ' :: markup.toList))).map (title.toList ++ ·)).map
          String.ofList := by
        rw [shownFrom_tag isEnding, ends, Option.bind_some, List.reverse_reverse, stays,
          draw_nil, Option.map_map]
        rfl
    _ = (shown? markup).map (title ++ " " ++ ·) := by
        rw [shownFrom_pieces_cons blank, shown?]
        simp [Function.comp_def, String.append_assoc]

end FieldRules.CommandLine.Markup
