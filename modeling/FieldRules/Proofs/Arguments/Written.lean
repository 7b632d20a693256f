/-
  FieldRules/Proofs/Arguments/Written.lean
  ========================================
  **Argument text, as it is written.**

  Argument text is made of tokens with separators before, between and after
  them.  An integer is a run of digits, a symbol an upper-case name, a string a
  quotation of printable characters.  A string closes itself; an integer and a
  symbol have to be closed by a separator where another token follows.

  `Written` holds such a text in its parts, with the proof that every word is
  closed.  `Written.text` is the text, `Written.values` are the arguments that
  stand in it, and `Written.text_injective` says that a text has one such
  reading at most.
-/
import FieldRules.Arguments.Reader
import FieldRules.Proofs.Text.Quotation
import FieldRules.Proofs.Text.Run

namespace FieldRules

open FieldRules.Text

namespace Arguments

/-! ### Arguments one after the other -/

@[simp] theorem empty_append (arguments : Arguments) : append {} arguments = arguments := rfl

@[simp] theorem append_empty (arguments : Arguments) : arguments.append {} = arguments := by
  simp [append]

theorem append_assoc (first second third : Arguments) :
    (first.append second).append third = first.append (second.append third) := by
  simp [append]

/-- The arguments with every integer reduced to 64 bits. -/
def reduced (arguments : Arguments) : Arguments :=
  { arguments with integers := arguments.integers.map (· % integerModulus) }

@[simp] theorem reduced_words (strings symbols : List String) :
    reduced { strings := strings, symbols := symbols } =
      { strings := strings, symbols := symbols } := rfl

@[simp] theorem reduced_append (first second : Arguments) :
    (first.append second).reduced = first.reduced.append second.reduced := by
  simp [append, reduced]

/-- Integers that fit in 64 bits are left as they are. -/
theorem reduced_of_lt {arguments : Arguments}
    (fits : ∀ value ∈ arguments.integers, value < integerModulus) :
    arguments.reduced = arguments := by
  have same : arguments.integers.map (· % integerModulus) = arguments.integers :=
    (List.map_congr_left fun value member => Nat.mod_eq_of_lt (fits value member)).trans
      (List.map_id' _)
  simp [reduced, same]

/-! ### The characters of words -/

theorem isSymbolChar_of_isDigit {c : Char} (h : c.isDigit = true) :
    Name.isSymbolChar c = true := by
  simp [Name.isSymbolChar, h]

theorem isSymbolChar_of_isUpper {c : Char} (h : c.isUpper = true) :
    Name.isSymbolChar c = true := by
  simp [Name.isSymbolChar, h]

theorem not_isDigit_of_isLetter {c : Char} (letter : Name.isLetter c = true) :
    ¬ c.isDigit = true := by
  simp only [Name.isLetter_eq, Bool.or_eq_true, Name.isUpper_iff_toNat,
    Name.isLower_iff_toNat] at letter
  simp only [Char.isDigit_iff_toNat, Char.reduceToNat]
  omega

theorem isDigit_of_isUpper {c : Char} (h : c.isUpper = true) : ¬ c.isDigit = true :=
  not_isDigit_of_isLetter (by simp [Name.isLetter_eq, h])

theorem isSeparator_of_isNameChar {c : Char} (h : Name.isNameChar c = true) :
    isSeparator c = false := by
  have bounds := Name.toNat_of_isNameChar h
  have notComma : c ≠ ',' := by
    rintro rfl
    exact absurd bounds (by decide)
  simp [isSeparator, notComma, isBlank_eq_false (c := c) (by omega) (by omega)]

theorem isSeparator_of_isSymbolChar {c : Char} (h : Name.isSymbolChar c = true) :
    isSeparator c = false :=
  isSeparator_of_isNameChar (Name.isNameChar_of_isSymbolChar h)

theorem begins_no_word_of_isSeparator {c : Char} (h : isSeparator c = true) :
    c.isDigit = false ∧ c.isUpper = false := by
  have notSymbolChar : ¬ Name.isSymbolChar c = true := fun word => by
    simp [isSeparator_of_isSymbolChar word] at h
  refine ⟨?_, ?_⟩
  · exact Bool.eq_false_iff.mpr fun digit => notSymbolChar (isSymbolChar_of_isDigit digit)
  · exact Bool.eq_false_iff.mpr fun upper => notSymbolChar (isSymbolChar_of_isUpper upper)

/-- A character of a name can stand outside of quotations in a body. -/
theorem free_of_isNameChar {c : Char} (inName : Name.isNameChar c = true) :
    c ≠ ')' ∧ c ≠ quoteMark := by
  constructor <;> rintro rfl <;> exact absurd inName (by decide)

theorem free_of_isSymbolChar {c : Char} (word : Name.isSymbolChar c = true) :
    c ≠ ')' ∧ c ≠ quoteMark :=
  free_of_isNameChar (Name.isNameChar_of_isSymbolChar word)

theorem free_of_isSeparator {c : Char} (separates : isSeparator c = true) :
    c ≠ ')' ∧ c ≠ quoteMark := by
  constructor <;> rintro rfl <;> exact absurd separates (by decide)

/-! ### Tokens -/

abbrev Separators := Run isSeparator

def commaBlank : Separators := ⟨[',', ' '], List.all_eq_true.mp (by decide)⟩

/-- The text is empty or begins with a separator: a word in front of it is closed. -/
abbrev ClosesWord (text : List Char) : Prop := Stops (fun c => !isSeparator c) text

/-- A token of argument text, as it is written. -/
inductive Token where
  | integer (digits : Run Char.isDigit) (nonempty : digits.chars ≠ [])
  | string (content : List QuotedChar) (printable : ∀ unit ∈ content, isPrintable unit.char = true)
  | symbol (name : List Char) (upper : Name.isSymbol name = true)

namespace Token

def text : Token → List Char
  | .integer digits _ => digits.chars
  | .string content _ => quotation content
  | .symbol name _ => name

/-- The token as the only argument: an integer with the value of its decimal
    digits, a string without its quotes and escapes, or a symbol. -/
def values : Token → Arguments
  | .integer digits _ => { integers := [Nat.ofDigitChars 10 digits.chars 0] }
  | .string content _ => { strings := [String.ofList (content.map QuotedChar.char)] }
  | .symbol name _ => { symbols := [String.ofList name] }

/-- Whether the token itself says where it ends. -/
def closesItself : Token → Bool
  | .string _ _ => true
  | .integer _ _ | .symbol _ _ => false

theorem exists_run_of_isSymbol {name : List Char} (upper : Name.isSymbol name = true) :
    ∃ (first : Char) (more : Run Name.isSymbolChar),
      first.isUpper = true ∧ name = first :: more.chars := by
  cases name with
  | nil => simp [Name.isSymbol] at upper
  | cons first more =>
    simp only [Name.isSymbol, Bool.and_eq_true, List.all_eq_true] at upper
    exact ⟨first, ⟨more, upper.2⟩, upper.1, rfl⟩

theorem text_ne_nil (token : Token) : token.text ≠ [] := by
  cases token with
  | integer digits nonempty => exact nonempty
  | string content printable => exact List.cons_ne_nil _ _
  | symbol name upper =>
    rintro rfl
    exact absurd upper (by decide)

theorem stops_text (token : Token) (rest : List Char) :
    Stops isSeparator (token.text ++ rest) := by
  cases token with
  | integer digits nonempty =>
    obtain ⟨c, digit, more, rfl⟩ := Run.eq_cons_of_ne_nil nonempty
    exact isSeparator_of_isSymbolChar (isSymbolChar_of_isDigit digit)
  | string content printable => exact stops_cons.mpr (by decide)
  | symbol name upper =>
    obtain ⟨first, more, isUpper, rfl⟩ := exists_run_of_isSymbol upper
    exact isSeparator_of_isSymbolChar (isSymbolChar_of_isUpper isUpper)

/-- **A token is cut off a text in one way only**, where words are closed. -/
theorem text_append_inj {first second : Token} {rest other : List Char}
    (same : first.text ++ rest = second.text ++ other)
    (closed : first.closesItself = false → ClosesWord rest)
    (closedOther : second.closesItself = false → ClosesWord other) :
    first = second ∧ rest = other := by
  have stops {rest : List Char} (closes : ClosesWord rest) : Stops Name.isSymbolChar rest :=
    closes.mono fun c h => by simp [isSeparator_of_isSymbolChar h]
  -- the first character tells the kind of a token, so only equal kinds remain
  cases first with
  | integer digits nonempty =>
    obtain ⟨c, digit, more, rfl⟩ := Run.eq_cons_of_ne_nil nonempty
    cases second with
    | integer digits' nonempty' =>
      have stopsDigits {rest : List Char} (closes : ClosesWord rest) : Stops Char.isDigit rest :=
        (stops closes).mono fun _ => isSymbolChar_of_isDigit
      obtain ⟨rfl, sameRest⟩ :=
        Run.append_inj same (stopsDigits (closed rfl)) (stopsDigits (closedOther rfl))
      exact ⟨rfl, sameRest⟩
    | string content printable =>
      obtain ⟨rfl, -⟩ := List.cons.inj same
      exact absurd digit (by decide)
    | symbol name upper =>
      obtain ⟨d, tail, isUpper, rfl⟩ := exists_run_of_isSymbol upper
      obtain ⟨rfl, -⟩ := List.cons.inj same
      exact absurd digit (isDigit_of_isUpper isUpper)
  | string content printable =>
    cases second with
    | integer digits' nonempty' =>
      obtain ⟨c, digit, more, rfl⟩ := Run.eq_cons_of_ne_nil nonempty'
      obtain ⟨rfl, -⟩ := List.cons.inj same
      exact absurd digit (by decide)
    | string content' printable' =>
      simp only [text, quotation, List.cons_append, List.append_assoc, List.cons.injEq,
        true_and] at same
      obtain ⟨rfl, sameRest⟩ := quotedText_inj same
      exact ⟨rfl, sameRest⟩
    | symbol name upper =>
      obtain ⟨d, tail, isUpper, rfl⟩ := exists_run_of_isSymbol upper
      obtain ⟨rfl, -⟩ := List.cons.inj same
      exact absurd isUpper (by decide)
  | symbol name upper =>
    obtain ⟨c, more, isUpper, rfl⟩ := exists_run_of_isSymbol upper
    cases second with
    | integer digits' nonempty' =>
      obtain ⟨d, digit, tail, rfl⟩ := Run.eq_cons_of_ne_nil nonempty'
      obtain ⟨rfl, -⟩ := List.cons.inj same
      exact absurd digit (isDigit_of_isUpper isUpper)
    | string content printable =>
      obtain ⟨rfl, -⟩ := List.cons.inj same
      exact absurd isUpper (by decide)
    | symbol name' upper' =>
      obtain ⟨d, tail, isUpper', rfl⟩ := exists_run_of_isSymbol upper'
      obtain ⟨rfl, sameTail⟩ := List.cons.inj same
      obtain ⟨rfl, sameRest⟩ :=
        Run.append_inj sameTail (stops (closed rfl)) (stops (closedOther rfl))
      exact ⟨rfl, sameRest⟩

end Token

/-! ### Tokens with separators between them -/

abbrev Item := Token × Separators

/-- What is written for some tokens and the separators after each. -/
def itemsText (items : List Item) : List Char :=
  items.flatMap fun item => item.1.text ++ item.2.chars

/-- The arguments that some tokens stand for, in order. -/
def itemsValues (items : List Item) : Arguments :=
  items.foldr (fun item later => item.1.values.append later) {}

/-- Every token closes itself, is followed by a separator, or is the last one. -/
def Closed : List Item → Prop
  | [] => True
  | (token, gap) :: later =>
    (token.closesItself = true ∨ gap.chars ≠ [] ∨ later = []) ∧ Closed later

@[simp] theorem itemsText_nil : itemsText [] = [] := rfl

@[simp] theorem itemsText_cons (token : Token) (gap : Separators) (later : List Item) :
    itemsText ((token, gap) :: later) = token.text ++ (gap.chars ++ itemsText later) := by
  simp [itemsText]

@[simp] theorem itemsValues_nil : itemsValues [] = {} := rfl

@[simp] theorem itemsValues_cons (token : Token) (gap : Separators) (later : List Item) :
    itemsValues ((token, gap) :: later) = token.values.append (itemsValues later) := rfl

theorem itemsText_ne_nil (item : Item) (later : List Item) : itemsText (item :: later) ≠ [] := by
  rw [itemsText_cons]
  exact List.append_ne_nil_of_left_ne_nil item.1.text_ne_nil _

theorem stops_itemsText (items : List Item) : Stops isSeparator (itemsText items) := by
  cases items with
  | nil => exact stops_nil
  | cons item later =>
    obtain ⟨token, gap⟩ := item
    rw [itemsText_cons]
    exact token.stops_text _

/-- A separator, or the end of the text, closes a word. -/
theorem closesWord_append {gap : Separators} {items : List Item}
    (closed : gap.chars ≠ [] ∨ items = []) : ClosesWord (gap.chars ++ itemsText items) := by
  by_cases empty : gap.chars = []
  · rw [closed.resolve_left (not_not_intro empty), empty]
    exact stops_nil
  · obtain ⟨c, separates, more, rfl⟩ := Run.eq_cons_of_ne_nil empty
    exact stops_cons.mpr (by simp [separates])

/-- Separators and tokens are cut off a text in one way only. -/
theorem itemsText_inj {first second : List Item} {gap other : Separators}
    (closed : Closed first) (closedOther : Closed second)
    (same : gap.chars ++ itemsText first = other.chars ++ itemsText second) :
    gap = other ∧ first = second := by
  induction first generalizing second gap other with
  | nil =>
    obtain ⟨rfl, sameItems⟩ := Run.append_inj same (stops_itemsText _) (stops_itemsText _)
    cases second with
    | nil => exact ⟨rfl, rfl⟩
    | cons item later => exact absurd sameItems (itemsText_ne_nil item later).symm
  | cons item later ih =>
    obtain ⟨token, after⟩ := item
    obtain ⟨rfl, sameItems⟩ := Run.append_inj same (stops_itemsText _) (stops_itemsText _)
    cases second with
    | nil => exact absurd sameItems (itemsText_ne_nil _ later)
    | cons item' later' =>
      obtain ⟨token', after'⟩ := item'
      rw [itemsText_cons, itemsText_cons] at sameItems
      obtain ⟨rfl, sameRest⟩ := Token.text_append_inj sameItems
        (fun open' => closesWord_append (closed.1.resolve_left (by simp [open'])))
        (fun open' => closesWord_append (closedOther.1.resolve_left (by simp [open'])))
      obtain ⟨rfl, rfl⟩ := ih closed.2 closedOther.2 sameRest
      exact ⟨rfl, rfl⟩

/-- Argument text in its parts: separators, and tokens with separators after
    each, so that every word is closed. -/
@[ext]
structure Written where
  leading : Separators
  items : List Item
  closed : Closed items

namespace Written

def text (written : Written) : List Char := written.leading.chars ++ itemsText written.items

/-- The arguments that stand in the text, with integers of any size. -/
def values (written : Written) : Arguments := itemsValues written.items

/-- **Argument text has one reading at most.** -/
theorem text_injective {first second : Written} (same : first.text = second.text) :
    first = second := by
  obtain ⟨leading, items⟩ := itemsText_inj first.closed second.closed same
  exact Written.ext leading items

end Written

end Arguments

end FieldRules
