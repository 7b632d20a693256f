/-
  FieldRules/Value/Name.lean
  ==========================
  **Values as the names of rules and constants.**

  Whatever is handed over as a name is checked: it has to be a text, of any
  class of texts, and the text has to be a name.
-/
import FieldRules.Name
import FieldRules.Value.Shown

namespace FieldRules

open FieldRules.Text

inductive NameFault where
  /-- Its plain text is not that of a name; the purpose is what it was to name. -/
  | invalid (text purpose : String)
  /-- It is no text, and has no plain text either. -/
  | unshowable (fault : Value.ShowFault)
deriving DecidableEq, Repr

def NameFault.message : NameFault → String
  | invalid text purpose =>
    "Invalid " ++ purpose ++ " name " ++ quoted text
      ++ ": names must start with a letter and contain only letters, digits and underscores."
  | unshowable fault => fault.message

/-- Whether the fault is one of configuration: the value can be shown, and is no name. -/
def NameFault.isConfiguration : NameFault → Bool
  | invalid _ _ => true
  | unshowable _ => false

def Value.asName (value : Value) (purpose : String) : Except NameFault String :=
  match value.text? with
  | .some content =>
    if Name.isName content.toList then .ok content else .error (.invalid content purpose)
  | .none =>
    match value.showFault? with
    | .none => .error (.invalid value.plainText purpose)
    | .some fault => .error (.unshowable fault)

theorem Value.asName_eq_ok_iff {value : Value} {purpose name : String} :
    value.asName purpose = .ok name ↔
      value.text? = .some name ∧ Name.isName name.toList = true := by
  unfold Value.asName
  cases value.text? with
  | none => cases value.showFault? <;> simp
  | some content =>
    by_cases named : Name.isName content.toList = true
    · simp only [named, if_true, Except.ok.injEq, Option.some.injEq]
      exact ⟨fun same => ⟨same, same ▸ named⟩, fun both => both.1⟩
    · simp only [named, Bool.false_eq_true, if_false, Option.some.injEq, reduceCtorEq, false_iff,
        not_and]
      exact fun same isName => named (same ▸ isName)

theorem Value.asName_text_of_not_isName {name purpose : String}
    (named : Name.isName name.toList = false) :
    (Value.text name).asName purpose = .error (.invalid name purpose) := by
  simp [asName, text?, named]

end FieldRules
