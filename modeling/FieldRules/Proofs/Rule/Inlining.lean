/-
  FieldRules/Proofs/Rule/Inlining.lean
  ====================================
  **Rule text with the constants written out.**

  A constant has a literal: an integer its decimal numeral, a string its
  quotation, with a backslash before each quote and each backslash, if all its
  characters are printable.  To inline constants is to write in the place of each
  symbol the literal of what it stands for.  Everything else stays as it is
  spelled, and where one token had to be followed by a separator, the literal in
  its place is followed by the same one; so the text is rule text again, and its
  rules are the old ones with literals for symbols (`parse_of_inlines`).
-/
import FieldRules.Constants.Basic
import FieldRules.Proofs.Rule.Spelling

namespace FieldRules

open FieldRules.Text
open FieldRules.Invocation (Sequence)

/-! ### Literals -/

namespace Text

/-- The characters of a text as they are written between quotes: a quote and a backslash
    after a backslash, and all others as themselves. -/
def quotedChars (text : List Char) : List QuotedChar :=
  text.map fun c => if free : c ≠ quoteMark ∧ c ≠ escapeMark then .plain c free else .escaped c

theorem map_char_quotedChars (text : List Char) :
    (quotedChars text).map QuotedChar.char = text := by
  have each (c : Char) : (if free : c ≠ quoteMark ∧ c ≠ escapeMark then QuotedChar.plain c free
      else .escaped c).char = c := by
    split <;> rfl
  rw [quotedChars, List.map_map]
  exact (List.map_congr_left fun c _ => each c).trans (List.map_id text)

end Text

namespace Arguments

def Token.ofNumber (number : Nat) : Token :=
  .integer ⟨Nat.toDigits 10 number, fun _ => Nat.isDigit_of_mem_toDigits (by decide) (by decide)⟩
    Nat.toDigits_ne_nil

def Token.ofText (text : List Char) (printable : ∀ c ∈ text, isPrintable c = true) : Token :=
  .string (quotedChars text) fun unit member => printable _ <| by
    rw [← map_char_quotedChars text]
    exact List.mem_map_of_mem member

@[simp] theorem Token.values_ofNumber (number : Nat) :
    (Token.ofNumber number).values = { integers := [number] } := by
  simp [ofNumber, values, Nat.ofDigitChars_ten_toDigits]

@[simp] theorem Token.values_ofText {text : List Char}
    (printable : ∀ c ∈ text, isPrintable c = true) :
    (Token.ofText text printable).values = { strings := [String.ofList text] } := by
  rw [ofText, values, map_char_quotedChars]

end Arguments

open Arguments (Token)

namespace Constant

def values : Constant → Arguments
  | .integer value => { integers := [value] }
  | .string value => { strings := [value] }

/-- The token that says what a constant is, if one can. -/
def literal? : Constant → Option Token
  | .integer value => some (.ofNumber value)
  | .string value =>
    if printable : value.toList.all isPrintable = true then
      some (.ofText value.toList (List.all_eq_true.mp printable))
    else none

/-- **A literal says what the constant is.** -/
theorem values_of_literal? {constant : Constant} {token : Token}
    (isLiteral : constant.literal? = some token) : token.values = constant.values := by
  cases constant with
  | integer value =>
    obtain rfl := Option.some.inj isLiteral
    exact Token.values_ofNumber value
  | string value =>
    rw [literal?] at isLiteral
    split at isLiteral
    · rw [← Option.some.inj isLiteral, Token.values_ofText, String.ofList_toList, values]
    · cases isLiteral

end Constant

def Constants.literal? (constants : Constants) (name : String) : Option Token :=
  (constants.lookup? name).bind Constant.literal?

/-- **Only a string with a character that is not printable has no literal.** -/
theorem Constants.exists_unprintable_of_literal? {constants : Constants} {name : String}
    {constant : Constant} (none : constants.literal? name = none)
    (stands : constants.lookup? name = some constant) :
    ∃ value, constant = .string value ∧ ∃ c ∈ value.toList, isPrintable c = false := by
  rw [literal?, stands, Option.bind_some] at none
  cases constant with
  | integer value => cases none
  | string value =>
    rw [Constant.literal?] at none
    split at none
    · cases none
    · rename_i unprintable
      exact ⟨value, rfl, by simpa using unprintable⟩

/-! ### Tokens and their literals -/

namespace Arguments

variable (constants : Constants)

/-- The token, or the literal of what it stands for, if it is a symbol that has one. -/
def Token.inline : Token → Token
  | .symbol name upper => (constants.literal? (String.ofList name)).getD (.symbol name upper)
  | .integer digits nonempty => .integer digits nonempty
  | .string content printable => .string content printable

/-- A token is left as it is, with no literal for a symbol, or is a symbol and gives way to
    what it stands for. -/
theorem Token.inline_cases (token : Token) :
    (token.inline constants = token ∧
      ∀ symbol ∈ token.values.symbols, constants.literal? symbol = none) ∨
    ∃ name upper constant, token = .symbol name upper ∧
      constants.lookup? (String.ofList name) = some constant ∧
      (token.inline constants).values = constant.values := by
  cases token with
  | integer digits nonempty => exact .inl ⟨rfl, List.forall_mem_nil _⟩
  | string content printable => exact .inl ⟨rfl, List.forall_mem_nil _⟩
  | symbol name upper =>
    cases replaced : constants.literal? (String.ofList name) with
    | none =>
      refine .inl ⟨by rw [inline, replaced, Option.getD_none], ?_⟩
      intro symbol member
      rw [List.mem_singleton.mp member, replaced]
    | some token =>
      obtain ⟨constant, stands, isLiteral⟩ := Option.bind_eq_some_iff.mp replaced
      refine .inr ⟨name, upper, constant, rfl, stands, ?_⟩
      rw [inline, replaced, Option.getD_some, Constant.values_of_literal? isLiteral]

theorem Token.closesItself_inline {token : Token} (closes : token.closesItself = true) :
    (token.inline constants).closesItself = true := by
  cases token with
  | string content printable => rfl
  | integer digits nonempty => cases closes
  | symbol name upper => cases closes

/-! ### Argument text -/

def inlineItems (items : List Item) : List Item :=
  items.map fun item => (item.1.inline constants, item.2)

@[simp] theorem inlineItems_cons (token : Token) (gap : Separators) (later : List Item) :
    inlineItems constants ((token, gap) :: later) =
      (token.inline constants, gap) :: inlineItems constants later := rfl

/-- A literal in the place of a symbol is closed where the symbol was. -/
theorem closed_inlineItems {items : List Item} (closed : Closed items) :
    Closed (inlineItems constants items) := by
  induction items with
  | nil => exact trivial
  | cons item later ih =>
    obtain ⟨token, gap⟩ := item
    refine ⟨?_, ih closed.2⟩
    rcases closed.1 with closes | separated | rfl
    · exact .inl (token.closesItself_inline constants closes)
    · exact .inr (.inl separated)
    · exact .inr (.inr rfl)

def Written.inline (written : Written) : Written where
  leading := written.leading
  items := inlineItems constants written.items
  closed := closed_inlineItems constants written.closed

/-- **No symbol is left that has a literal.** -/
theorem literal?_eq_none_of_mem_inlineItems {items : List Item} :
    ∀ symbol ∈ (itemsValues (inlineItems constants items)).symbols,
      constants.literal? symbol = none := by
  induction items with
  | nil => exact List.forall_mem_nil _
  | cons item later ih =>
    obtain ⟨token, gap⟩ := item
    intro symbol member
    rw [inlineItems_cons, itemsValues_cons] at member
    rcases List.mem_append.mp member with first | later
    · obtain ⟨unchanged, none⟩ | ⟨name, upper, constant, -, -, values⟩ :=
        token.inline_cases constants
      · rw [unchanged] at first
        exact none symbol first
      · rw [values] at first
        cases constant <;> cases first
    · exact ih symbol later

end Arguments

/-! ### Rule text -/

namespace Rule

def Spelled.inline (constants : Constants) (spelled : Spelled) : Spelled :=
  { spelled with arguments := spelled.arguments.inline constants }

/-- **One text is another with the constants written out**: a blank text is left as it is,
    and in the spelling of the rules each symbol that has a literal gives way to it. -/
def Inlines (constants : Constants) (text inlined : String) : Prop :=
  (∃ blanks : Blanks, blanks.chars = text.toList ∧ text = inlined) ∨
    ∃ source : Sequence Spelled, source.text Spelled.text = text.toList ∧
      (source.map (Spelled.inline constants)).text Spelled.text = inlined.toList

variable {constants : Constants} {text inlined : String} {rules : List Rule}

/-- In every text that is read the constants can be written out. -/
theorem exists_inlines (read : Rule.parse text = .ok rules) :
    ∃ inlined, Inlines constants text inlined := by
  obtain ⟨-, blank⟩ | ⟨source, same, -⟩ := parse_eq_ok_iff_exists_spelled.mp read
  · obtain ⟨blanks, isBlank⟩ := blank
    exact ⟨text, .inl ⟨blanks, isBlank, rfl⟩⟩
  · exact ⟨_, .inr ⟨source, same, String.toList_ofList.symm⟩⟩

theorem forall₂_places_map {α β : Type} (change : α → β) (itemText : α → List Char)
    (itemText' : β → List Char) (source : Sequence α) :
    List.Forall₂ (fun place place' => change place.2 = place'.2) (source.places itemText)
      ((source.map change).places itemText') := by
  have items : ((source.places itemText).map Prod.snd).map change =
      ((source.map change).places itemText').map Prod.snd := by
    rw [source.map_snd_places, (source.map change).map_snd_places, source.items_map]
  rw [List.map_map, ← List.forall₂_eq_eq_eq, List.forall₂_map_left_iff,
    List.forall₂_map_right_iff] at items
  exact items

/-- **A text with the constants written out is read**, as the same rules with literals for
    symbols, each at the place where it then stands. -/
theorem exists_parse_of_inlines (read : Rule.parse text = .ok rules)
    (inlines : Inlines constants text inlined) :
    ∃ others, Rule.parse inlined = .ok others ∧
      List.Forall₂ (fun rule other => ∃ (spelled : Spelled) (offset place : Nat),
        spelled.located offset = rule ∧ (spelled.inline constants).located place = other)
        rules others := by
  obtain ⟨blanks, isBlank, rfl⟩ | ⟨source, same, isInlined⟩ := inlines
  · have none : Rule.parse text = .ok [] :=
      parse_eq_ok_iff_exists_spelled.mpr (.inl ⟨rfl, blanks, isBlank⟩)
    obtain rfl := Except.ok.inj (read.symm.trans none)
    exact ⟨[], none, .nil⟩
  · have readSource : Rule.parse text = .ok (Spelled.rules source) :=
      parse_eq_ok_iff_exists_spelled.mpr (.inr ⟨source, same, rfl⟩)
    obtain rfl := Except.ok.inj (read.symm.trans readSource)
    refine ⟨Spelled.rules (source.map (Spelled.inline constants)),
      parse_eq_ok_iff_exists_spelled.mpr (.inr ⟨_, isInlined, rfl⟩), ?_⟩
    rw [Spelled.rules, Spelled.rules, List.forall₂_map_left_iff, List.forall₂_map_right_iff]
    refine (forall₂_places_map (Spelled.inline constants) _ _ source).imp ?_
    rintro ⟨offset, spelled⟩ ⟨place, _⟩ rfl
    exact ⟨spelled, offset, place, rfl, rfl⟩

end Rule

end FieldRules
