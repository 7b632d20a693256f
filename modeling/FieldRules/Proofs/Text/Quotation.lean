/-
  FieldRules/Proofs/Text/Quotation.lean
  =====================================
  **Quoted text, as it is written.**

  Between two single quotes every character is written either as itself or
  after a backslash; only a quote and a backslash cannot be written as
  themselves.  The reader of arguments and the splitter of rule text both read
  quotations, each with its own rule on which characters may stand in one, so
  the written form is defined here once, without such a rule.  A quotation is
  closed by the first quote that can close it (`quotedText_inj`), which is why
  two readers of the same text cannot disagree about its end.
-/
namespace FieldRules.Text

abbrev quoteMark : Char := '\x27'

abbrev escapeMark : Char := '\x5c'

/-- One character of a quotation, with the way in which it is written. -/
inductive QuotedChar where
  | plain (c : Char) (free : c ≠ quoteMark ∧ c ≠ escapeMark)
  | escaped (c : Char)
deriving DecidableEq

def QuotedChar.text : QuotedChar → List Char
  | .plain c _ => [c]
  | .escaped c => [escapeMark, c]

def QuotedChar.char : QuotedChar → Char
  | .plain c _ => c
  | .escaped c => c

def quotedText (content : List QuotedChar) : List Char := content.flatMap QuotedChar.text

def quotation (content : List QuotedChar) : List Char :=
  quoteMark :: (quotedText content ++ [quoteMark])

@[simp] theorem quotedText_nil : quotedText [] = [] := rfl

@[simp] theorem quotedText_plain (c : Char) (free : c ≠ quoteMark ∧ c ≠ escapeMark)
    (content : List QuotedChar) :
    quotedText (.plain c free :: content) = c :: quotedText content := rfl

@[simp] theorem quotedText_escaped (c : Char) (content : List QuotedChar) :
    quotedText (.escaped c :: content) = escapeMark :: c :: quotedText content := rfl

/-- **A quotation ends in one place only**, and its content is written in one
    way only: after the opening quote the text says both. -/
theorem quotedText_inj {first second : List QuotedChar} {rest other : List Char}
    (same : quotedText first ++ quoteMark :: rest = quotedText second ++ quoteMark :: other) :
    first = second ∧ rest = other := by
  induction first generalizing second with
  | nil =>
    cases second with
    | nil => exact ⟨rfl, (List.cons.inj same).2⟩
    | cons head tail =>
      cases head with
      | plain c free => exact absurd (List.cons.inj same).1.symm free.1
      | escaped c => exact absurd (List.cons.inj same).1 (by decide)
  | cons head tail ih =>
    cases second with
    | nil =>
      cases head with
      | plain c free => exact absurd (List.cons.inj same).1 free.1
      | escaped c => exact absurd (List.cons.inj same).1 (by decide)
    | cons next more =>
      cases head with
      | plain c free =>
        cases next with
        | plain d free' =>
          obtain ⟨rfl, sameTail⟩ := List.cons.inj same
          obtain ⟨rfl, sameRest⟩ := ih sameTail
          exact ⟨rfl, sameRest⟩
        | escaped d => exact absurd (List.cons.inj same).1 free.2
      | escaped c =>
        cases next with
        | plain d free => exact absurd (List.cons.inj same).1.symm free.2
        | escaped d =>
          obtain ⟨rfl, sameTail⟩ := List.cons.inj (List.cons.inj same).2
          obtain ⟨rfl, sameRest⟩ := ih sameTail
          exact ⟨rfl, sameRest⟩

end FieldRules.Text
