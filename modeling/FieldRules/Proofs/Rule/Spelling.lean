/-
  FieldRules/Proofs/Rule/Spelling.lean
  ====================================
  **The rules of a text are those that are spelled in it.**

  A rule is spelled as a name, blanks, and argument text between parentheses.
  Such a rule is an invocation whose body is made of pieces: the strings among
  the tokens are the quotations of the body, and no other token can hold a
  closing parenthesis or a quote (`Arguments.Written.bodyText_pieces`).  So the
  splitter finds every rule at its place, whatever the strings hold, and the
  reader finds the tokens in the trimmed body.

  Conversely, what the splitter takes for a body is argument text if the reader
  takes it without its outer blanks.  So a text is read exactly where it is blank
  or a sequence of such rules (`parse_eq_ok_iff_exists_spelled`).
-/
import FieldRules.Proofs.Arguments.Trimming
import FieldRules.Proofs.Invocation.Splitting
import FieldRules.Rule

namespace FieldRules

open FieldRules.Text
open FieldRules.Invocation (Piece Sequence bodyText bodyText_append)

/-! ### Argument text as a body -/

namespace Arguments

def plainPieces (text : List Char) (free : ∀ c ∈ text, c ≠ ')' ∧ c ≠ quoteMark) : List Piece :=
  text.pmap (fun c free => .plain c free) free

theorem bodyText_plainPieces (text : List Char) (free : ∀ c ∈ text, c ≠ ')' ∧ c ≠ quoteMark) :
    bodyText (plainPieces text free) = text := by
  induction text with
  | nil => rfl
  | cons c rest ih => exact congrArg (c :: ·) (ih fun d member => free d (.tail c member))

theorem free_of_mem_symbol {name : List Char} (upper : Name.isSymbol name = true) (c : Char)
    (member : c ∈ name) : c ≠ ')' ∧ c ≠ quoteMark := by
  obtain ⟨first, more, isUpper, rfl⟩ := Token.exists_run_of_isSymbol upper
  rcases List.mem_cons.mp member with rfl | member
  · exact free_of_isSymbolChar (isSymbolChar_of_isUpper isUpper)
  · exact free_of_isSymbolChar (more.all c member)

/-- In a string no line feed follows a backslash, since a line feed is not
    printable. -/
theorem ne_escaped_of_printable {unit : QuotedChar} (printable : isPrintable unit.char = true) :
    unit ≠ .escaped '\n' := by
  rintro rfl
  exact absurd printable (by decide)

/-- The pieces of a token: one quotation, or the characters of a word. -/
def Token.pieces : Token → List Piece
  | .integer digits _ => plainPieces digits.chars fun c member =>
      free_of_isSymbolChar (isSymbolChar_of_isDigit (digits.all c member))
  | .string content printable =>
      [.quoted content fun unit member => ne_escaped_of_printable (printable unit member)]
  | .symbol name upper => plainPieces name (free_of_mem_symbol upper)

def gapPieces (gap : Separators) : List Piece :=
  plainPieces gap.chars fun c member => free_of_isSeparator (gap.all c member)

def Written.pieces (written : Written) : List Piece :=
  gapPieces written.leading ++
    written.items.flatMap fun item => item.1.pieces ++ gapPieces item.2

theorem Token.bodyText_pieces (token : Token) : bodyText token.pieces = token.text := by
  cases token with
  | integer digits nonempty => exact bodyText_plainPieces _ _
  | string content printable => exact List.append_nil _
  | symbol name upper => exact bodyText_plainPieces _ _

theorem bodyText_flatMap_pieces (items : List Item) :
    bodyText (items.flatMap fun item => item.1.pieces ++ gapPieces item.2) = itemsText items := by
  induction items with
  | nil => rfl
  | cons item later ih =>
    obtain ⟨token, gap⟩ := item
    rw [List.flatMap_cons, bodyText_append, bodyText_append, token.bodyText_pieces, ih,
      itemsText_cons, List.append_assoc]
    exact congrArg (token.text ++ ·) (congrArg (· ++ itemsText later) (bodyText_plainPieces _ _))

/-- **Argument text is a body**: its pieces are written as the text is. -/
theorem Written.bodyText_pieces (written : Written) : bodyText written.pieces = written.text := by
  rw [pieces, bodyText_append, bodyText_flatMap_pieces, text, gapPieces, bodyText_plainPieces]

end Arguments

/-! ### Rules -/

namespace Rule

/-- A rule in its parts, as it is spelled, with integers of any size. -/
structure Spelled where
  name : List Char
  isName : Name.isName name = true
  gap : Blanks
  arguments : Arguments.Written

namespace Spelled

def text (spelled : Spelled) : List Char :=
  spelled.name ++ (spelled.gap.chars ++ '(' :: (spelled.arguments.text ++ [')']))

/-- The rule that stands at an offset: its name, the values of its tokens, reduced to 64
    bits, and its argument text without outer blanks. -/
def located (spelled : Spelled) (offset : Nat) : Rule :=
  { invocation :=
      { name := String.ofList spelled.name
        arguments := String.ofList (trim spelled.arguments.text)
        offset := offset }
    arguments := spelled.arguments.values.reduced }

def invocation (spelled : Spelled) : Invocation.Written :=
  ⟨spelled.name, spelled.isName, spelled.gap, spelled.arguments.pieces⟩

theorem text_invocation (spelled : Spelled) : spelled.invocation.text = spelled.text := by
  rw [Invocation.Written.text, invocation, spelled.arguments.bodyText_pieces, text]

theorem arguments_invocation (spelled : Spelled) (offset : Nat) :
    (spelled.invocation.located offset).arguments =
      String.ofList (trim spelled.arguments.text) := by
  rw [Invocation.Written.located, invocation, spelled.arguments.bodyText_pieces]

/-- **The arguments of a rule are read** from its invocation. -/
theorem ofInvocation_located (spelled : Spelled) (offset : Nat) :
    ofInvocation (spelled.invocation.located offset) = .ok (spelled.located offset) := by
  have whole : Arguments.parse (String.ofList spelled.arguments.text) =
      .ok spelled.arguments.values.reduced :=
    Arguments.parse_eq_ok_iff_exists_written.mpr
      ⟨spelled.arguments, String.toList_ofList.symm, rfl⟩
  rw [ofInvocation, arguments_invocation, Arguments.parse_trim_eq_ok_iff.mpr whole, located,
    ← arguments_invocation spelled offset]
  rfl

end Spelled

theorem exists_spelled_of_ofInvocation {written : Invocation.Written} {offset : Nat} {rule : Rule}
    (read : ofInvocation (written.located offset) = .ok rule) :
    ∃ spelled : Spelled, spelled.invocation = written := by
  obtain ⟨arguments, trimmed, -⟩ := map_eq_ok_iff.mp read
  have whole : Arguments.parse (String.ofList (bodyText written.body)) = .ok arguments :=
    Arguments.parse_trim_eq_ok_iff.mp trimmed
  obtain ⟨tokens, isText, -⟩ := Arguments.parse_eq_ok_iff_exists_written.mp whole
  rw [String.toList_ofList, ← tokens.bodyText_pieces] at isText
  have pieces : tokens.pieces = written.body :=
    (Invocation.bodyText_inj (congrArg (· ++ [')']) isText)).1
  refine ⟨⟨written.name, written.isName, written.gap, tokens⟩, ?_⟩
  rw [Spelled.invocation, pieces]

/-! ### Rule text -/

def Spelled.rules (source : Sequence Spelled) : List Rule :=
  (source.places Spelled.text).map fun place => place.2.located place.1

theorem parse_of_split {text : String} {invocations : List Invocation}
    (accepted : Invocation.split text = .ok invocations) :
    Rule.parse text = invocations.mapM ofInvocation := by
  rw [Rule.parse, accepted]
  rfl

/-- What is spelled in a text is read from it. -/
theorem parse_text_spelled (source : Sequence Spelled) :
    Rule.parse (String.ofList (source.text Spelled.text)) = .ok (Spelled.rules source) := by
  rw [parse_of_split (Invocation.split_text_of_map Spelled.text_invocation source)]
  exact mapM_map_eq_ok (fun place => place.2.ofInvocation_located place.1) _

theorem parse_text_alone (spelled : Spelled) :
    Rule.parse (String.ofList spelled.text) = .ok [spelled.located 0] := by
  have read := parse_text_spelled ⟨Run.empty, spelled, [], Run.empty⟩
  rwa [Sequence.text, Run.chars_empty, Invocation.followersText_nil, List.append_nil,
    List.append_nil, List.nil_append] at read

theorem exists_spelled_of_mapM {source : Sequence Invocation.Written} {rules : List Rule}
    (read : source.invocations.mapM ofInvocation = .ok rules) :
    ∃ spelled : Sequence Spelled, spelled.map Spelled.invocation = source := by
  refine Sequence.exists_map_eq fun written member => ?_
  rw [← source.map_snd_places Invocation.Written.text] at member
  obtain ⟨⟨offset, written⟩, place, rfl⟩ := List.mem_map.mp member
  have isInvocation : written.located offset ∈ source.invocations :=
    List.mem_map.mpr ⟨_, place, rfl⟩
  obtain ⟨rule, -, isRead⟩ := exists_right_of_forall₂ (mapM_eq_ok_iff.mp read) isInvocation
  exact exists_spelled_of_ofInvocation isRead

/-- **A text is read exactly where it is blank or a sequence of rules**, and then gives
    the rules that are spelled in it. -/
theorem parse_eq_ok_iff_exists_spelled {text : String} {rules : List Rule} :
    Rule.parse text = .ok rules ↔
      (rules = [] ∧ ∃ blanks : Blanks, blanks.chars = text.toList) ∨
        ∃ source : Sequence Spelled, source.text Spelled.text = text.toList ∧
          Spelled.rules source = rules := by
  constructor
  · intro read
    obtain ⟨invocations, accepted, each⟩ := bind_eq_ok_iff.mp read
    obtain ⟨rfl, blank⟩ | ⟨source, same, rfl⟩ :=
      Invocation.split_eq_ok_iff_exists_sequence.mp accepted
    · cases each
      exact .inl ⟨rfl, blank⟩
    · obtain ⟨spelled, rfl⟩ := exists_spelled_of_mapM each
      rw [Sequence.text_map _ Spelled.text_invocation] at same
      refine .inr ⟨spelled, same, ?_⟩
      have readAgain := parse_text_spelled spelled
      rw [same, String.ofList_toList] at readAgain
      exact Except.ok.inj (readAgain.symm.trans read)
  · rintro (⟨rfl, blank⟩ | ⟨source, same, rfl⟩)
    · rw [parse_of_split (Invocation.split_eq_ok_iff_exists_sequence.mpr (.inl ⟨rfl, blank⟩))]
      rfl
    · rw [← parse_text_spelled source, same, String.ofList_toList]

end Rule

end FieldRules
