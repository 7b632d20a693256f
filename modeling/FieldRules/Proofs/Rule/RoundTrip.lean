/-
  FieldRules/Proofs/Rule/RoundTrip.lean
  =====================================
  **Rules that are written are read back.**

  Where the integers of a rule fit in 64 bits, reducing them changes nothing: what
  is read from the text of the rule are the values of its tokens.
-/
import FieldRules.Proofs.Rule.Spelling

namespace FieldRules

open FieldRules.Text
open FieldRules.Invocation (Sequence)

namespace Rule

/-- A rule as it is written, with integers that fit in 64 bits. -/
structure Written extends Spelled where
  fits : ∀ value ∈ arguments.values.integers, value < integerModulus

namespace Written

def text (written : Written) : List Char := written.toSpelled.text

/-- The rule that stands at an offset: its name, the values of its tokens, and
    its argument text without outer blanks. -/
def located (written : Written) (offset : Nat) : Rule :=
  { invocation :=
      { name := String.ofList written.name
        arguments := String.ofList (trim written.arguments.text)
        offset := offset }
    arguments := written.arguments.values }

theorem located_toSpelled (written : Written) (offset : Nat) :
    written.toSpelled.located offset = written.located offset := by
  rw [Spelled.located, Arguments.reduced_of_lt written.fits, located]

end Written

/-- The rules that stand in a sequence, at their offsets. -/
def rulesOf (source : Sequence Written) : List Rule :=
  (source.places Written.text).map fun place => place.2.located place.1

theorem rules_map_toSpelled (source : Sequence Written) :
    Spelled.rules (source.map Written.toSpelled) = rulesOf source := by
  rw [Spelled.rules, Sequence.places_map Written.toSpelled (fun _ => rfl), List.map_map, rulesOf]
  exact List.map_congr_left fun place _ => place.2.located_toSpelled place.1

/-- **Rules that are written are read back**, in order and whatever their strings
    hold: each with its name, with the values of its tokens sorted by kind, and
    with the offset at which it is written. -/
theorem parse_text (source : Sequence Written) :
    Rule.parse (String.ofList (source.text Written.text)) = .ok (rulesOf source) ∧
      ∀ place ∈ source.places Written.text,
        place.2.text <+: (source.text Written.text).drop place.1 := by
  constructor
  · have same : (source.map Written.toSpelled).text Spelled.text = source.text Written.text :=
      Sequence.text_map _ (fun _ => rfl) source
    rw [← same, parse_text_spelled, rules_map_toSpelled]
  · rintro ⟨offset, written⟩ member
    exact source.prefix_drop_of_mem_places Written.text member

theorem fits_of_all {arguments : Arguments.Written}
    (all : arguments.values.integers.all (fun value => decide (value < integerModulus)) = true) :
    ∀ value ∈ arguments.values.integers, value < integerModulus :=
  fun value member => of_decide_eq_true (List.all_eq_true.mp all value member)

/-- A rule with a string, which holds a closing parenthesis and an escaped quote, and a symbol. -/
def amongQuoted : Written where
  name := ['i', 'n']
  isName := by decide
  gap := Run.empty
  arguments :=
    { leading := Run.empty
      items :=
        [(.string [.plain 'a' (by decide), .plain ')' (by decide), .escaped '\x27']
              (List.all_eq_true.mp (by decide)),
            ⟨[' ', ',', ','], List.all_eq_true.mp (by decide)⟩),
          (.symbol ['M', 'A', 'X'] (by decide), Run.empty)]
      closed := by simp [Arguments.Closed, Arguments.Token.closesItself] }
  fits := fits_of_all (by decide)

def oneTab : Blanks := ⟨['\t'], List.all_eq_true.mp (by decide)⟩

/-- A rule with two integers, and blanks wherever they may be. -/
def lengthBetween : Written where
  name := ['l', 'e', 'n']
  isName := by decide
  gap := oneTab
  arguments :=
    { leading := ⟨[' '], List.all_eq_true.mp (by decide)⟩
      items :=
        [(.integer ⟨['1'], List.all_eq_true.mp (by decide)⟩ (by decide),
            ⟨[','], List.all_eq_true.mp (by decide)⟩),
          (.integer ⟨['2', '0'], List.all_eq_true.mp (by decide)⟩ (by decide),
            ⟨[' '], List.all_eq_true.mp (by decide)⟩)]
      closed := by simp [Arguments.Closed] }
  fits := fits_of_all (by decide)

/-- Two rules without a comma between them are read from their text, each at its place. -/
theorem parse_text_of_quoted_and_counted :
    Rule.parse "\tin('a)\\'' ,,MAX)len\t( 1,20 )\n" =
      .ok [⟨⟨"in", "'a)\\'' ,,MAX", 1⟩, ⟨[], ["a)'"], ["MAX"]⟩⟩,
        ⟨⟨"len", "1,20", 17⟩, ⟨[1, 20], [], []⟩⟩] := by
  let source : Sequence Written :=
    ⟨oneTab, amongQuoted, [(⟨Run.empty, false, Run.empty⟩, lengthBetween)],
      ⟨['\n'], List.all_eq_true.mp (by decide)⟩⟩
  have isRead : Rule.parse (String.ofList (source.text Written.text)) = .ok (rulesOf source) :=
    (parse_text source).1
  exact isRead

end Rule

end FieldRules
