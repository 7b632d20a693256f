/-
  FieldRules/Proofs/Constants/Sound.lean
  ======================================
  **The constants that a file defines are sound.**

  Whatever a document looks like, its integers have a place in 64 unsigned bits,
  and each name is there once among the integers and once among the strings: a
  document that says otherwise is refused, or its last word holds.  So nothing
  but its name can keep a constant of a file from being registered.
-/
import FieldRules.Constants.File

namespace FieldRules

theorem unsigned?_eq_some_iff {value : Int} {number : Nat} :
    unsigned? value = some number ↔ value = number ∧ number < integerModulus := by
  constructor
  · intro isUnsigned
    refine ⟨?_, lt_of_unsigned? isUnsigned⟩
    unfold unsigned? at isUnsigned
    split at isUnsigned
    · cases isUnsigned
      omega
    · cases isUnsigned
  · rintro ⟨rfl, fits⟩
    exact unsigned?_natCast fits

namespace Constants

/-- Integers are in range, and each name stands for one constant of a kind. -/
structure Sound (constants : Constants) : Prop where
  fits : ∀ entry ∈ constants.integers, entry.2 < integerModulus
  integersOnce : constants.integers.names.Nodup
  stringsOnce : constants.strings.names.Nodup

variable {source : String} {constants more : Constants}

theorem sound_empty : Sound {} where
  fits := List.forall_mem_nil _
  integersOnce := List.nodup_nil
  stringsOnce := List.nodup_nil

theorem Sound.insertInteger (sound : constants.Sound) (name : String) {value : Nat}
    (fits : value < integerModulus) :
    Sound { constants with integers := constants.integers.insert name value } where
  fits entry member := by
    rcases Table.mem_insert member with rfl | earlier
    · exact fits
    · exact sound.fits entry earlier
  integersOnce := Table.nodup_names_insert sound.integersOnce name value
  stringsOnce := sound.stringsOnce

theorem Sound.insertString (sound : constants.Sound) (name value : String) :
    Sound { constants with strings := constants.strings.insert name value } where
  fits := sound.fits
  integersOnce := sound.integersOnce
  stringsOnce := Table.nodup_names_insert sound.stringsOnce name value

/-! ### Documents -/

theorem Sound.addValue (sound : constants.Sound) {expected : Option Kind} {name : String}
    {value : Value} (added : addValue source expected constants name value = .ok more) :
    more.Sound := by
  unfold Constants.addValue at added
  split at added
  · split at added
    · cases added
    · split at added
      · rename_i unsigned isUnsigned
        cases added
        exact sound.insertInteger name (lt_of_unsigned? isUnsigned)
      · cases added
  · split at added
    · split at added
      · cases added
      · cases added
        exact sound.insertString name _
    · cases added

theorem Sound.addEntries (sound : constants.Sound) {expected : Option Kind}
    {entries : List (Value × Value)} (added : addEntries source expected constants entries = .ok more) :
    more.Sound := by
  induction entries generalizing constants with
  | nil =>
    cases added
    exact sound
  | cons entry rest ih =>
    obtain ⟨key, value⟩ := entry
    rw [Constants.addEntries] at added
    split at added
    · cases added
    · split at added
      · cases added
      · rename_i next isNext
        exact ih (sound.addValue isNext) added

theorem Sound.addSection (sound : constants.Sound) {entries : List (Value × Value)} {kind : Kind}
    (added : addSection source entries kind constants = .ok more) : more.Sound := by
  unfold Constants.addSection at added
  split at added
  · cases added
    exact sound
  · split at added
    · cases added
      exact sound
    · split at added
      · exact sound.addEntries added
      · cases added

/-- **The constants of a document are sound.** -/
theorem sound_of_ofDocument {document : Value} (told : ofDocument source document = .ok constants) :
    constants.Sound := by
  unfold ofDocument at told
  split at told
  · split at told
    · split at told
      · cases told
      · rename_i integers isIntegers
        exact (sound_empty.addSection isIntegers).addSection told
    · exact sound_empty.addEntries told
  · cases told

/-- **The constants of a file are sound.** -/
theorem sound_of_ofFile {path : String} {read : FilePath → FileContent}
    (told : ofFile path read = .ok constants) : constants.Sound := by
  unfold ofFile at told
  split at told
  · cases told
  · dsimp only at told
    split at told
    · cases told
    · split at told
      · rename_i document isDocument
        cases told
        exact sound_of_ofDocument isDocument
      · cases told

end Constants

end FieldRules
