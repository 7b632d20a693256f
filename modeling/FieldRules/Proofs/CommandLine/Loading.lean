/-
  FieldRules/Proofs/CommandLine/Loading.lean
  ==========================================
  **Commands tell what is wrong with a file of constants, with exceptions.**

  What is wrong with a file reaches an engine, and from there the screen, as it
  is.  Loading adds one more way to fail, a name that is none, which is an error
  of configuration.  So loading fails otherwise exactly where the file escapes,
  and just then a command ends without a word.
-/
import FieldRules.Proofs.CommandLine.Agreement
import FieldRules.Proofs.Constants.Escaping
import FieldRules.Proofs.Engine.Loading

namespace FieldRules

open Constants (Escapes)

namespace Engine

variable {engine : Engine} {name : String} {read : FilePath → FileContent}

/-- **Loading fails otherwise than by a mistake of configuration** exactly where the
    file escapes. -/
theorem loadConstants_escapes_iff (engine : Engine) :
    (∃ error, (engine.loadConstants name read).result = .error error ∧
        error.isConfiguration = false) ↔ Escapes name read := by
  rw [← Constants.ofFile_escapes_iff]
  cases told : Constants.ofFile name read with
  | error fault =>
    rw [loadConstants_of_file_fault told]
    constructor
    · rintro ⟨_, same, otherwise⟩
      cases same
      exact ⟨fault, rfl, otherwise⟩
    · rintro ⟨_, same, otherwise⟩
      cases same
      exact ⟨.file fault, rfl, otherwise⟩
  | ok constants =>
    refine iff_of_false ?_ (by simp)
    rintro ⟨error, fails, otherwise⟩
    have registering := ((loadConstants_of_constants engine told).2 error).mp fails
    obtain ⟨before, known, -, rfl, -⟩ :=
      registerEach_eq_error (Constants.sound_of_ofFile told) registering
    cases otherwise

theorem engine_loadConstants_of_escapes (escapes : Escapes name read) :
    (engine.loadConstants name read).engine = engine := by
  obtain ⟨fault, told, -⟩ := Constants.ofFile_escapes_iff.mpr escapes
  rw [loadConstants_of_file_fault told]

end Engine

namespace CommandLine

variable {constants : Option String} {name : String} {read : FilePath → FileContent}
  {verbose : Bool} {error : Error}

theorem withEngine_of_error (fails : (prepare constants read).2 = .error error)
    (present : Engine → Screen) :
    withEngine verbose constants read present =
      (failure "Config error" error).behind (noted verbose constants read) := by
  rw [withEngine, noted]
  cases same : prepare constants read with
  | mk notices prepared =>
    rw [same] at fails
    obtain rfl : prepared = .error error := fails
    rfl

theorem prepare_of_error (named : name ≠ "")
    (fails : ((Engine.create true).1.loadConstants name read).result = .error error) :
    (prepare (some name) read).2 = .error error := by
  have asked : (some name).filter (!·.isEmpty) = some name := by
    simp [named]
  simp only [prepare, asked, fails]

theorem stopsWith_failure (configuration : error.isConfiguration = true) (noted : List String) :
    StopsWith "Config error:" noted ((failure "Config error" error).behind noted) := by
  obtain ⟨shown, isShown⟩ := Markup.exists_shown?_escape error.message
  have failed : failure "Config error" error =
      { code := 1, errors := screenLines ("Config error:" ++ (" " ++ shown)) } := by
    rw [failure_eq (by decide) (by decide +kernel) configuration isShown, String.append_assoc]
    rfl
  obtain ⟨first, more, lines, begins⟩ :=
    @exists_screenLines_eq_cons "Config error:" (by decide) (by decide) (" " ++ shown)
  rw [failed, lines]
  exact ⟨rfl, first, more, rfl, begins⟩

theorem failure_of_not_isConfiguration (title : String)
    (otherwise : error.isConfiguration = false) : failure title error = { code := 1 } := by
  rw [failure, if_neg (by simp [otherwise])]

theorem stopsWith_of_not_escapes (named : name ≠ "") (safe : ¬ Escapes name read)
    (fails : ((Engine.create true).1.loadConstants name read).result = .error error)
    (present : Engine → Screen) :
    StopsWith "Config error:" (noted verbose (some name) read)
      (withEngine verbose (some name) read present) := by
  have configuration : error.isConfiguration = true := by
    by_contra otherwise
    exact safe ((Engine.loadConstants_escapes_iff _).mp ⟨error, fails, Bool.eq_false_iff.mpr otherwise⟩)
  rw [withEngine_of_error (prepare_of_error named fails)]
  exact stopsWith_failure configuration _

theorem withEngine_of_escapes (named : name ≠ "") (escapes : Escapes name read)
    (present : Engine → Screen) :
    withEngine verbose (some name) read present =
      Screen.behind (noted verbose (some name) read) { code := 1 } := by
  obtain ⟨error, fails, otherwise⟩ :=
    (Engine.loadConstants_escapes_iff (Engine.create true).1).mpr escapes
  rw [withEngine_of_error (prepare_of_error named fails), failure_of_not_isConfiguration _ otherwise]

/-- **An unusable file of constants is an error of configuration, unless it escapes.**
    Reading it, and loading it into any engine, fail otherwise exactly where it
    escapes, and then the engine stays as it is; a command tells every other
    failure, and is silent about an escape.  A JSON text within the limits does not
    escape. -/
theorem unusable_constants_are_told_unless_they_escape (name : String)
    (read : FilePath → FileContent) :
    ((∃ fault, Constants.ofFile name read = .error fault ∧ fault.isConfiguration = false) ↔
      Escapes name read) ∧
    (∀ engine : Engine,
      ((∃ error, (engine.loadConstants name read).result = .error error ∧
        error.isConfiguration = false) ↔ Escapes name read) ∧
      (Escapes name read → (engine.loadConstants name read).engine = engine)) ∧
    (name ≠ "" → ∀ verbose present,
      (Escapes name read → withEngine verbose (some name) read present =
        Screen.behind (noted verbose (some name) read) { code := 1 }) ∧
      (¬ Escapes name read → ∀ error,
        ((Engine.create true).1.loadConstants name read).result = .error error →
        StopsWith "Config error:" (noted verbose (some name) read)
          (withEngine verbose (some name) read present))) ∧
    ∀ text, (FilePath.ofText name).suffix = ".json" →
      read (.ofText name) = .ok (Text.Utf8.encode text) →
      ¬ Json.HasLongNumeral (Text.unifyLineEnds text) →
      Json.openings (Text.unifyLineEnds text) ≤ Json.maxDepth →
      '\x00' ∉ name.toList → ¬ Escapes name read := by
  refine ⟨Constants.ofFile_escapes_iff, fun engine => ?_, fun named verbose present => ?_, ?_⟩
  · exact ⟨Engine.loadConstants_escapes_iff engine, Engine.engine_loadConstants_of_escapes⟩
  · refine ⟨fun escapes => withEngine_of_escapes named escapes present, ?_⟩
    intro safe error fails
    exact stopsWith_of_not_escapes named safe fails present
  · intro text json content short shallow possible
    exact Constants.not_escapes_of_json possible json content short shallow

def strayByte : FileContent := .ok [0xff]

theorem escapes_of_strayByte : Escapes "c.json" fun _ => strayByte := by
  refine .noText (by decide) rfl fun text same => ?_
  have decoded : Text.Utf8.decode [0xff] = .ok text := Text.Utf8.decode_eq_ok_iff.mpr same
  cases decoded

/-- A byte that begins no character escapes in silence, a missing file is told, and
    an empty object is safe. -/
theorem unusable_constants_of_strayByte_of_missing :
    ((∃ fault, Constants.ofFile "c.json" (fun _ => strayByte) = .error fault ∧
        fault.isConfiguration = false) ∧
      withEngine false (some "c.json") (fun _ => strayByte) (fun _ => {}) = { code := 1 }) ∧
    StopsWith "Config error:" []
      (withEngine false (some "c.json") (fun _ => .error .notFound) fun _ => {}) ∧
    ¬ Escapes "c.json" fun _ => .ok (Text.Utf8.encode ['\x7b', '\x7d']) := by
  have named : "c.json" ≠ "" := by decide
  have possible : '\x00' ∉ "c.json".toList := by decide
  refine ⟨?_, ?_, ?_⟩
  · obtain ⟨file, -, screen, -⟩ :=
      unusable_constants_are_told_unless_they_escape "c.json" fun _ => strayByte
    exact ⟨file.mpr escapes_of_strayByte,
      (screen named false fun _ => {}).1 escapes_of_strayByte⟩
  · have safe : ¬ Escapes "c.json" fun _ => .error .notFound := by
      intro escapes
      cases escapes with
      | impossibleName nul => exact possible nul
      | noText _ content _ => cases content
      | givenUp _ content _ => cases content
      | oversized _ content _ _ => cases content
    have missing : (Engine.create true).1.loadConstants "c.json" (fun _ => .error .notFound) = _ :=
      Engine.loadConstants_of_file_fault (Constants.ofFile_of_fault possible rfl)
    obtain ⟨-, -, screen, -⟩ :=
      unusable_constants_are_told_unless_they_escape "c.json" fun _ => .error .notFound
    exact (screen named false fun _ => {}).2 safe _ (congrArg (·.result) missing)
  · obtain ⟨-, -, -, json⟩ := unusable_constants_are_told_unless_they_escape "c.json"
      fun _ => .ok (Text.Utf8.encode ['\x7b', '\x7d'])
    have suffix : (FilePath.ofText "c.json").suffix = ".json" := by
      rw [Engine.ofText_c_json]
      decide
    refine json ['\x7b', '\x7d'] suffix rfl ?_ (by decide) possible
    rintro ⟨digits, inside, many, -⟩
    exact absurd (Nat.lt_of_lt_of_le many inside.length_le) (by decide)

/-- Not every unusable file is an error of configuration. -/
theorem not_every_unusable_file_is_configuration_error :
    ¬ ∀ name read fault, Constants.ofFile name read = .error fault →
      fault.isConfiguration = true := by
  intro always
  obtain ⟨fault, fails, otherwise⟩ := Constants.ofFile_escapes_iff.mpr escapes_of_strayByte
  exact absurd (always _ _ fault fails) (by simp [otherwise])

end CommandLine

end FieldRules
