/-
  FieldRules/Proofs/Json/Limits.lean
  ==================================
  **A JSON document that is not malformed is given up only at a limit.**

  Reading goes on from a rest of the text to a later one, so whatever it stops
  at stands in the rest that it began with.  It stops otherwise than at a
  problem in two places: at a numeral with too many digits, and at an object or
  array inside of too many others, each of which was opened in the text
  (`Within`).  The values that are read keep within the first limit, so they can
  all be shown.
-/
import FieldRules.Json.Reader
import FieldRules.Proofs.Number.Spelling

namespace FieldRules

open FieldRules.Text

namespace Value

/-! ### Lists and mappings that can be shown -/

theorem isShowable_list {items : List Value} :
    (Value.list items).isShowable = true ↔ ∀ item ∈ items, item.isShowable = true := by
  simp only [isShowable, showFault?]
  induction items with
  | nil => simp [itemFault?]
  | cons item rest ih => simp_all [itemFault?]

theorem isShowable_mapping {entries : List (Value × Value)} :
    (Value.mapping entries).isShowable = true ↔
      ∀ entry ∈ entries, entry.1.isShowable = true ∧ entry.2.isShowable = true := by
  simp only [isShowable, showFault?]
  induction entries with
  | nil => simp [entryFault?]
  | cons entry rest ih =>
    obtain ⟨key, value⟩ := entry
    simp_all [entryFault?, and_assoc]

theorem isShowable_insertEntry {key value : Value} {entries : List (Value × Value)}
    (keyShows : key.isShowable = true) (valueShows : value.isShowable = true)
    (shows : (Value.mapping entries).isShowable = true) :
    (Value.mapping (insertEntry key value entries)).isShowable = true := by
  rw [isShowable_mapping] at shows ⊢
  induction entries with
  | nil => simpa [insertEntry] using ⟨keyShows, valueShows⟩
  | cons entry rest ih =>
    obtain ⟨known, old⟩ := entry
    rw [List.forall_mem_cons] at shows
    rw [insertEntry]
    split
    · exact List.forall_mem_cons.mpr ⟨⟨shows.1.1, valueShows⟩, shows.2⟩
    · exact List.forall_mem_cons.mpr ⟨shows.1, ih shows.2⟩

end Value

namespace Json

/-! ### Limits -/

/-- More digits stand in a row than a number may have. -/
def HasLongNumeral (text : List Char) : Prop :=
  ∃ digits, digits <:+: text ∧ Number.maxDigits < digits.length ∧
    ∀ c ∈ digits, c.isDigit = true

def isOpening (c : Char) : Bool := c == '\x7b' || c == '['

def openings (text : List Char) : Nat := text.countP isOpening

theorem HasLongNumeral.mono {text more : List Char} (long : HasLongNumeral text)
    (suffix : text <:+ more) : HasLongNumeral more := by
  obtain ⟨digits, stand, many, all⟩ := long
  exact ⟨digits, stand.trans suffix.isInfix, many, all⟩

theorem openings_mono {text more : List Char} (suffix : text <:+ more) :
    openings text ≤ openings more :=
  suffix.sublist.countP_le

/-- From a text on, inside of so many objects and arrays, something fine is read
    and the text is left at a later place, or reading stops; at a limit only if the
    text exceeds it. -/
def Within {α : Type} (fine : α → Prop) (depth : Nat) (text : List Char) :
    Except Stop (α × Rest) → Prop
  | .ok (value, after) => fine value ∧ after.chars <:+ text
  | .error (.problem _ _) => True
  | .error (.integerTooLong _) => HasLongNumeral text
  | .error (.tooDeep _) => maxDepth < depth + openings text

namespace Within

variable {α β : Type} {fine : α → Prop} {fine' : β → Prop} {depth : Nat} {text more : List Char}
  {result : Except Stop (α × Rest)}

theorem mono (within : Within fine depth text result) (suffix : text <:+ more) :
    Within fine depth more result := by
  match result, within with
  | .ok _, ⟨isFine, later⟩ => exact ⟨isFine, later.trans suffix⟩
  | .error (.problem _ _), _ => exact trivial
  | .error (.integerTooLong _), long => exact HasLongNumeral.mono long suffix
  | .error (.tooDeep _), deep =>
    exact Nat.lt_of_lt_of_le deep (Nat.add_le_add_left (openings_mono suffix) depth)

theorem inside (within : Within fine (depth + 1) text result)
    (suffix : text <:+ more) {c : Char} (opening : isOpening c = true) :
    Within fine depth (c :: more) result := by
  match result, within with
  | .ok _, ⟨isFine, later⟩ => exact ⟨isFine, later.trans (suffix.trans (List.suffix_cons c more))⟩
  | .error (.problem _ _), _ => exact trivial
  | .error (.integerTooLong _), long =>
    exact HasLongNumeral.mono long (suffix.trans (List.suffix_cons c more))
  | .error (.tooDeep _), deep =>
    have fewer := openings_mono suffix
    have one : openings (c :: more) = openings more + 1 := List.countP_cons_of_pos opening
    change maxDepth < depth + 1 + openings text at deep
    change maxDepth < depth + openings (c :: more)
    omega

theorem bind {next : α × Rest → Except Stop (β × Rest)} (within : Within fine depth text result)
    (later : ∀ value after, fine value → after.chars <:+ text →
      Within fine' depth after.chars (next (value, after))) :
    Within fine' depth text (result >>= next) := by
  match result, within with
  | .ok (value, after), ⟨isFine, suffix⟩ => exact (later value after isFine suffix).mono suffix
  | .error (.problem _ _), _ => exact trivial
  | .error (.integerTooLong _), long => exact long
  | .error (.tooDeep _), deep => exact deep

end Within

namespace Rest

theorem drop_suffix (rest : Rest) (count : Nat) : (rest.drop count).chars <:+ rest.chars :=
  List.drop_suffix count rest.chars

theorem skipBlanks_suffix (rest : Rest) : rest.skipBlanks.chars <:+ rest.chars :=
  List.dropWhile_suffix isJsonBlank

theorem dropNext_suffix (rest : Rest) : (rest.skipBlanks.drop 1).chars <:+ rest.chars :=
  (rest.skipBlanks.drop_suffix 1).trans rest.skipBlanks_suffix

theorem skipNext_suffix (rest : Rest) : (rest.skipBlanks.drop 1).skipBlanks.chars <:+ rest.chars :=
  (rest.skipBlanks.drop 1).skipBlanks_suffix.trans rest.dropNext_suffix

end Rest

/-! ### Strings -/

theorem exists_problem_of_codePointEscape {rest : Rest} {stop : Stop}
    (stops : codePointEscape rest = .error stop) :
    ∃ problem position, stop = .problem problem position := by
  unfold codePointEscape at stops
  dsimp only at stops
  repeat' split at stops
  all_goals
    cases stops
    try exact ⟨_, _, rfl⟩

theorem within_readChars (start depth fuel : Nat) (found : List Char) (rest : Rest) :
    Within (fun _ => True) depth rest.chars (readChars start fuel found rest) := by
  induction fuel generalizing found rest with
  | zero => exact trivial
  | succ fuel ih =>
    rw [readChars]
    split
    · exact trivial
    · exact ⟨trivial, rest.drop_suffix 1⟩
    · exact trivial
    · cases escape : codePointEscape (rest.drop 2) with
      | error stop =>
        obtain ⟨problem, position, rfl⟩ := exists_problem_of_codePointEscape escape
        exact trivial
      | ok read => exact (ih _ _).mono (rest.drop_suffix _)
    · split
      · exact (ih _ _).mono (rest.drop_suffix 2)
      · exact trivial
    · split
      · exact trivial
      · exact (ih _ _).mono (rest.drop_suffix 1)

theorem within_readString (depth : Nat) (rest : Rest) :
    Within (fun _ => True) depth rest.chars (readString rest) :=
  (within_readChars _ depth _ _ _).mono (rest.drop_suffix 1)

/-! ### Numbers -/

theorem ofDigitChars_lt {digits : List Char} (all : ∀ c ∈ digits, c.isDigit = true) (value : Nat) :
    Nat.ofDigitChars 10 digits value < (value + 1) * Number.power 10 digits.length := by
  induction digits generalizing value with
  | nil =>
    rw [Nat.ofDigitChars_nil, List.length_nil]
    exact Nat.lt_of_lt_of_eq (Nat.lt_succ_self value) (Nat.mul_one _).symm
  | cons c rest ih =>
    rw [List.forall_mem_cons] at all
    obtain ⟨low, high⟩ := Number.toNat_of_isDigit all.1
    have below := ih all.2 (10 * value + (c.toNat - '0'.toNat))
    have step : 10 * value + (c.toNat - '0'.toNat) + 1 ≤ (value + 1) * 10 := by
      simp only [Char.reduceToNat]
      omega
    have power : Number.power 10 (c :: rest).length = Number.power 10 rest.length * 10 := rfl
    rw [Nat.ofDigitChars_cons, power, Nat.mul_comm (Number.power 10 rest.length), ← Nat.mul_assoc]
    exact Nat.lt_of_lt_of_le below (Nat.mul_le_mul_right _ step)

theorem isShowable_integer {digits : List Char} (all : ∀ c ∈ digits, c.isDigit = true)
    (few : ¬ Number.maxDigits < digits.length) (negative : Bool) :
    (Value.integer (if negative then -(Number.ofDecimalChars digits : Int)
      else Number.ofDecimalChars digits)).isShowable = true := by
  have below : Number.ofDecimalChars digits < Number.power 10 Number.maxDigits := by
    rw [Number.ofDecimalChars_eq]
    refine Nat.lt_of_lt_of_le (ofDigitChars_lt all 0) ?_
    rw [Nat.zero_add, Nat.one_mul]
    exact Nat.pow_le_pow_right (by decide) (Nat.le_of_not_lt few)
  cases negative <;> simp [Value.isShowable, Value.showFault?, below]

theorem within_readNumber (depth : Nat) (rest : Rest) :
    Within (fun value => value.isShowable = true) depth rest.chars (readNumber rest) := by
  unfold readNumber
  extract_lets negative unsigned whole
  have later : unsigned <:+ rest.chars := by
    unfold unsigned
    split
    · exact List.drop_suffix 1 rest.chars
    · exact List.suffix_rfl
  clear_value unsigned
  have front : whole <+: unsigned := by
    unfold whole
    split
    · exact ⟨_, rfl⟩
    · exact List.takeWhile_prefix Char.isDigit
  have digits : ∀ c ∈ whole, c.isDigit = true := by
    unfold whole
    split
    · simp
    · exact List.all_eq_true.mp List.all_takeWhile
  clear_value whole
  split
  · exact trivial
  · split
    · split
      · next long => exact ⟨whole, front.isInfix.trans later.isInfix, long, digits⟩
      · next few => exact ⟨isShowable_integer digits few negative, rest.drop_suffix _⟩
    · exact ⟨rfl, rest.drop_suffix _⟩

/-! ### Values -/

theorem isShowable_of_word {word : String × Value} (isWord : word ∈ words) :
    word.2.isShowable = true := by
  simp only [words, List.mem_cons, List.not_mem_nil, or_false] at isWord
  rcases isWord with rfl | rfl | rfl | rfl | rfl | rfl <;> rfl

/-- What an opening leads to: reading on inside of it, unless it is too deep. -/
theorem within_opened {rest : Rest} {c : Char} {tail : List Char} {depth : Nat} {isObject : Bool}
    {shut : Bool} {empty : Value} {result : Except Stop (Value × Rest)}
    (begins : rest.chars = c :: tail) (opening : isOpening c = true)
    (shows : empty.isShowable = true)
    (within : Within (fun value => value.isShowable = true) (depth + 1)
      (rest.drop 1).skipBlanks.chars result) :
    Within (fun value => value.isShowable = true) depth rest.chars
      (if maxDepth ≤ depth then .error (.tooDeep isObject)
       else if shut then .ok (empty, (rest.drop 1).skipBlanks.drop 1) else result) := by
  have inner : (rest.drop 1).skipBlanks.chars <:+ tail := by
    have isTail : (rest.drop 1).chars = tail := congrArg (List.drop 1) begins
    exact isTail ▸ (rest.drop 1).skipBlanks_suffix
  split
  · next deep =>
    have one : openings rest.chars = openings tail + 1 := by
      rw [begins]
      exact List.countP_cons_of_pos opening
    change maxDepth < depth + openings rest.chars
    omega
  · split
    · exact ⟨shows, (rest.drop 1).dropNext_suffix.trans (rest.drop_suffix 1)⟩
    · rw [begins]
      exact within.inside inner opening

/-- **Values, entries and items are read within the limits**, by one induction over
    how far the three may call each other. -/
theorem within_read (fuel : Nat) :
    (∀ depth rest, Within (fun value => value.isShowable = true) depth rest.chars
      (readValue fuel depth rest)) ∧
    (∀ depth found rest, (Value.mapping found).isShowable = true →
      Within (fun value => value.isShowable = true) depth rest.chars
        (readEntries fuel depth found rest)) ∧
    ∀ depth found rest, (Value.list found).isShowable = true →
      Within (fun value => value.isShowable = true) depth rest.chars
        (readItems fuel depth found rest) := by
  induction fuel with
  | zero => exact ⟨fun _ _ => trivial, fun _ _ _ _ => trivial, fun _ _ _ _ => trivial⟩
  | succ fuel ih =>
    obtain ⟨readsValue, readsEntries, readsItems⟩ := ih
    refine ⟨fun depth rest => ?_, fun depth found rest shows => ?_, fun depth found rest shows => ?_⟩
    · rw [readValue]
      split
      · have within := within_readString depth rest
        cases read : readString rest with
        | error stop =>
          rw [read] at within
          cases stop <;> exact within
        | ok told =>
          rw [read] at within
          exact ⟨rfl, within.2⟩
      · next begins =>
        exact within_opened begins rfl rfl (readsEntries _ [] _ rfl)
      · next begins =>
        exact within_opened begins rfl rfl (readsItems _ [] _ rfl)
      · split
        · next told word =>
          obtain ⟨isWord, found, rfl⟩ := Option.map_eq_some_iff.mp word
          exact ⟨isShowable_of_word (List.mem_of_find?_eq_some found), rest.drop_suffix _⟩
        · exact within_readNumber depth rest
    · rw [readEntries]
      split
      · exact trivial
      refine (within_readString depth rest).bind fun key afterKey _ _ => ?_
      dsimp only
      split
      · exact trivial
      · refine ((readsValue depth _).mono afterKey.skipNext_suffix).bind
          fun value afterValue valueShows _ => ?_
        have more : (Value.mapping (Value.insertEntry (.text key) value found)).isShowable = true :=
          Value.isShowable_insertEntry rfl valueShows shows
        dsimp only
        split
        · exact ⟨more, afterValue.dropNext_suffix⟩
        · exact (readsEntries depth _ _ more).mono afterValue.skipNext_suffix
        · exact trivial
    · rw [readItems]
      refine (readsValue depth rest).bind fun value afterValue valueShows _ => ?_
      have more : (Value.list (value :: found)).isShowable = true :=
        Value.isShowable_list.mpr (List.forall_mem_cons.mpr ⟨valueShows, Value.isShowable_list.mp shows⟩)
      dsimp only
      split
      · refine ⟨Value.isShowable_list.mpr fun item member => ?_, afterValue.dropNext_suffix⟩
        exact Value.isShowable_list.mp more item (List.mem_reverse.mp member)
      · exact (readsItems depth _ _ more).mono afterValue.skipNext_suffix
      · exact trivial

/-! ### Documents -/

theorem exists_within_readDocument (text : List Char) :
    ∃ result, Within (fun value => value.isShowable = true) 0 text result ∧
      readDocument text = result.map (·.1) := by
  unfold readDocument
  split
  · exact ⟨.error (.problem .byteOrderMark 0), trivial, rfl⟩
  · have within := ((within_read (2 * text.length + 2)).1 0 _).mono
      (Rest.skipBlanks_suffix { position := 0, chars := text })
    dsimp only
    cases read : readValue (2 * text.length + 2) 0
        (Rest.skipBlanks { position := 0, chars := text }) with
    | error stop => exact ⟨.error stop, by rwa [read] at within, rfl⟩
    | ok told =>
      obtain ⟨value, rest⟩ := told
      rw [read] at within
      dsimp only [bind, Except.bind]
      split
      · exact ⟨.ok (value, rest), within, rfl⟩
      · exact ⟨rest.skipBlanks.fail .extraData, trivial, rfl⟩

variable {text : List Char} {value : Value} {fault : Fault}

theorem isShowable_of_parse (parses : parse text = .ok value) : value.isShowable = true := by
  obtain ⟨result, within, read⟩ := exists_within_readDocument text
  rw [parse, read] at parses
  match result, within with
  | .ok (told, _), ⟨shows, _⟩ =>
    cases parses
    exact shows
  | .error (.problem _ _), _ => cases parses
  | .error (.integerTooLong _), _ => cases parses
  | .error (.tooDeep _), _ => cases parses

/-- **A text is malformed, or is given up at a limit that it exceeds.** -/
theorem exceeds_of_parse_eq_error (fails : parse text = .error fault)
    (other : ∀ problem position line column, fault ≠ .malformed problem position line column) :
    HasLongNumeral text ∨ maxDepth < openings text := by
  obtain ⟨result, within, read⟩ := exists_within_readDocument text
  rw [parse, read] at fails
  match result, within with
  | .ok _, _ => cases fails
  | .error (.problem _ _), _ =>
    cases fails
    exact absurd rfl (other _ _ _ _)
  | .error (.integerTooLong _), long => exact .inl long
  | .error (.tooDeep _), deep => exact .inr (Nat.lt_of_lt_of_eq deep (Nat.zero_add _))

end Json

end FieldRules
