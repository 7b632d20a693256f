/-
  FieldRules/Proofs/Constants/Escaping.lean
  =========================================
  **What is wrong with a file of constants is an error of configuration, with exceptions.**

  A file is opened, decoded, parsed and taken apart, in this order, and each
  stage tells some of its faults as errors of configuration.  The exceptions are
  told here by what is in the file (`Escapes`): a name that no file has, bytes
  that encode no text, a document that the parser gives up for another reason
  than that it is malformed, and a document whose first bad entry cannot be
  shown.  Everything else is read, or is an error of configuration
  (`ofFile_escapes_iff`).

  The entries of a document are looked at one after the other, and whether one
  is bad does not depend on those before, so the first bad one decides.

  What is read of a JSON text can be shown, and only a limit makes the reader
  give it up, so that such a file escapes only beyond the limits
  (`not_escapes_of_json`).
-/
import FieldRules.Proofs.Constants.Sound
import FieldRules.Proofs.Json.Limits
import FieldRules.Proofs.Result
import FieldRules.Proofs.Text.Utf8

namespace FieldRules

open FieldRules.Text

namespace Constants

/-! ### Entries -/

/-- The value is a constant of the kind that is asked for, or of any kind. -/
def IsConstant (expected : Option Kind) (value : Value) : Prop :=
  (∃ number : Nat, number < integerModulus ∧ value = .integer number ∧
    expected ≠ some .strings) ∨
  ∃ content, value.text? = some content ∧ expected ≠ some .integers

/-- The entry defines a constant, under a name that can be shown. -/
def Defines (expected : Option Kind) (entry : Value × Value) : Prop :=
  entry.1.isShowable = true ∧ IsConstant expected entry.2

/-- What is wrong with the entry cannot be shown: its name is too long, or it is
    no constant and its value is. -/
def IsOversized (expected : Option Kind) (entry : Value × Value) : Prop :=
  entry.1.isShowable = false ∨ ¬ IsConstant expected entry.2 ∧ entry.2.isShowable = false

def addEntry (source : String) (expected : Option Kind) (constants : Constants)
    (entry : Value × Value) : Except DocumentFault Constants :=
  if !entry.1.isShowable then .error .tooLongToShow
  else addValue source expected constants entry.1.plainText entry.2

variable {source name : String} {expected : Option Kind} {constants : Constants} {value : Value}
  {entry : Value × Value} {entries : List (Value × Value)}

theorem addEntries_eq_foldlM (source : String) (expected : Option Kind) (constants : Constants)
    (entries : List (Value × Value)) :
    addEntries source expected constants entries =
      entries.foldlM (addEntry source expected) constants := by
  induction entries generalizing constants with
  | nil => rfl
  | cons entry rest ih =>
    obtain ⟨key, value⟩ := entry
    rw [addEntries, List.foldlM_cons, addEntry]
    split
    · rfl
    · cases addValue source expected constants key.plainText value with
      | error fault => rfl
      | ok more => exact ih more

theorem addValue_of_isConstant (isConstant : IsConstant expected value) :
    ∃ more, addValue source expected constants name value = .ok more := by
  rcases isConstant with ⟨number, fits, rfl, notStrings⟩ | ⟨content, text, notIntegers⟩
  · have plain : (expected == some Kind.strings) = false := by simpa using notStrings
    simp [addValue, plain, unsigned?_natCast fits]
  · have plain : (expected == some Kind.integers) = false := by simpa using notIntegers
    cases value with
    | text content => simp [addValue, Value.text?, plain]
    | namedText name content => simp [addValue, Value.text?, plain]
    | _ => cases text

/-- What is no constant is refused, with a fault that shows the value. -/
theorem addValue_of_not_isConstant (source : String) (other : ¬ IsConstant expected value) :
    ∃ fault, fault ≠ .tooLongToShow ∧ ∀ constants,
      addValue source expected constants name value = .error (faultAbout value fault) := by
  have unsupported : DocumentFault.unsupportedValue source name value ≠ .tooLongToShow := nofun
  cases value with
  | integer number =>
    by_cases strings : expected = some .strings
    · refine ⟨_, unsupported, fun constants => ?_⟩
      simp [addValue, strings]
    · have plain : (expected == some Kind.strings) = false := by simpa using strings
      cases fits : unsigned? number with
      | none =>
        refine ⟨.outOfRange source name number, nofun, fun constants => ?_⟩
        simp [addValue, plain, fits]
      | some unsigned =>
        obtain ⟨rfl, small⟩ := unsigned?_eq_some_iff.mp fits
        exact absurd (.inl ⟨unsigned, small, rfl, strings⟩) other
  | text content | namedText _ content =>
    have integers : expected = some .integers := by
      by_contra plain
      exact other (.inr ⟨content, rfl, plain⟩)
    refine ⟨_, unsupported, fun constants => ?_⟩
    simp [addValue, Value.text?, integers]
  | _ => exact ⟨_, unsupported, fun constants => rfl⟩

theorem faultAbout_eq_tooLongToShow_iff {fault : DocumentFault} (shows : fault ≠ .tooLongToShow) :
    faultAbout value fault = .tooLongToShow ↔ value.isShowable = false := by
  unfold faultAbout
  split
  · next showable => simp [shows, showable]
  · next hidden => simpa using hidden

/-- **An entry is added whatever was added before, or refused likewise**, and what
    it is refused for is told by the entry alone. -/
theorem addEntry_cases (source : String) (expected : Option Kind) (entry : Value × Value) :
    (Defines expected entry ∧ ¬ IsOversized expected entry ∧
      ∀ constants, ∃ more, addEntry source expected constants entry = .ok more) ∨
    ∃ fault, ¬ Defines expected entry ∧ (fault = .tooLongToShow ↔ IsOversized expected entry) ∧
      ∀ constants, addEntry source expected constants entry = .error fault := by
  obtain ⟨key, value⟩ := entry
  by_cases showable : key.isShowable = true
  · by_cases isConstant : IsConstant expected value
    · refine .inl ⟨⟨showable, isConstant⟩, by simp [IsOversized, showable, isConstant],
        fun constants => ?_⟩
      rw [addEntry, if_neg (by simp [showable])]
      exact addValue_of_isConstant isConstant
    · obtain ⟨fault, shows, refused⟩ := addValue_of_not_isConstant source isConstant
      refine .inr ⟨faultAbout value fault, fun defines => isConstant defines.2, ?_,
        fun constants => ?_⟩
      · simp [IsOversized, showable, isConstant, faultAbout_eq_tooLongToShow_iff shows]
      · rw [addEntry, if_neg (by simp [showable])]
        exact refused constants
  · refine .inr ⟨.tooLongToShow, fun defines => showable defines.1, ?_, fun constants => ?_⟩
    · simp [IsOversized, showable]
    · rw [addEntry, if_pos (by simp [showable])]

theorem exists_addEntry_iff :
    (∃ more, addEntry source expected constants entry = .ok more) ↔ Defines expected entry := by
  rcases addEntry_cases source expected entry with ⟨defines, -, added⟩ | ⟨fault, not, -, refused⟩
  · exact iff_of_true (added constants) defines
  · rw [refused]
    exact iff_of_false (by simp) not

theorem addEntry_eq_tooLongToShow_iff :
    addEntry source expected constants entry = .error .tooLongToShow ↔
      IsOversized expected entry := by
  rcases addEntry_cases source expected entry with ⟨-, not, added⟩ | ⟨fault, -, about, refused⟩
  · obtain ⟨more, added⟩ := added constants
    rw [added]
    exact iff_of_false (by simp) not
  · rw [refused, Except.error.injEq, about]

theorem addEntry_eq_error_iff (source : String) (expected : Option Kind) (sofar : Constants)
    (entry : Value × Value) (fault : DocumentFault) :
    addEntry source expected sofar entry = .error fault ↔
      addEntry source expected {} entry = .error fault := by
  rcases addEntry_cases source expected entry with ⟨-, -, added⟩ | ⟨refusal, -, -, refused⟩
  · obtain ⟨more, addedLater⟩ := added sofar
    obtain ⟨other, addedFirst⟩ := added {}
    rw [addedLater, addedFirst]
    exact iff_of_false (by simp) (by simp)
  · rw [refused, refused]

/-- The first entry that defines nothing cannot be shown. -/
def Oversized (expected : Option Kind) (entries : List (Value × Value)) : Prop :=
  ∃ before entry after, entries = before ++ entry :: after ∧
    (∀ other ∈ before, Defines expected other) ∧ IsOversized expected entry

theorem exists_addEntries_iff :
    (∃ more, addEntries source expected constants entries = .ok more) ↔
      ∀ entry ∈ entries, Defines expected entry := by
  rw [← not_iff_not, ← exists_error_iff, addEntries_eq_foldlM]
  simp only [foldlM_eq_error_iff (addEntry_eq_error_iff source expected)]
  rw [exists_comm, exists_firstFails_iff]
  simp only [exists_error_iff, exists_addEntry_iff]
  simp only [not_forall, exists_prop]

theorem addEntries_eq_tooLongToShow_iff :
    addEntries source expected constants entries = .error .tooLongToShow ↔
      Oversized expected entries := by
  rw [addEntries_eq_foldlM, foldlM_eq_error_iff (addEntry_eq_error_iff source expected)]
  simp only [FirstFails, exists_addEntry_iff, addEntry_eq_tooLongToShow_iff]
  constructor
  · rintro ⟨entry, before, after, rfl, defines, oversized⟩
    exact ⟨before, entry, after, rfl, defines, oversized⟩
  · rintro ⟨before, entry, after, rfl, defines, oversized⟩
    exact ⟨entry, before, after, rfl, defines, oversized⟩

/-! ### Documents -/

/-- What the section of a kind says: nothing, where it is missing or counts as nothing. -/
def sectionOf (entries : List (Value × Value)) (kind : Kind) : Value :=
  match entries.find? fun entry => entry.1.text? == some kind.sectionName with
  | none => .mapping []
  | some (_, content) => if content.isFalsy then .mapping [] else content

/-- In the first part of the document that has a bad entry, the first bad entry
    cannot be shown. -/
inductive IsOversizedDocument : Value → Prop
  | flat {entries : List (Value × Value)} (plain : isSectioned entries = false)
    (oversized : Oversized none entries) : IsOversizedDocument (.mapping entries)
  | integers {entries inner : List (Value × Value)} (sectioned : isSectioned entries = true)
    (content : sectionOf entries .integers = .mapping inner)
    (oversized : Oversized (some .integers) inner) : IsOversizedDocument (.mapping entries)
  | strings {entries inner later : List (Value × Value)} (sectioned : isSectioned entries = true)
    (content : sectionOf entries .integers = .mapping inner)
    (define : ∀ entry ∈ inner, Defines (some .integers) entry)
    (content' : sectionOf entries .strings = .mapping later)
    (oversized : Oversized (some .strings) later) : IsOversizedDocument (.mapping entries)

theorem addSection_eq (source : String) (entries : List (Value × Value)) (kind : Kind)
    (constants : Constants) :
    addSection source entries kind constants =
      match sectionOf entries kind with
      | .mapping inner => addEntries source (some kind) constants inner
      | _ => .error (.sectionNotMapping source kind.sectionName) := by
  unfold addSection sectionOf
  cases entries.find? fun entry => entry.1.text? == some kind.sectionName with
  | none => rfl
  | some entry =>
    obtain ⟨key, content⟩ := entry
    by_cases nothing : content.isFalsy = true
    · simp only [nothing, if_true]
      rfl
    · simp only [nothing]
      rfl

variable {document : Value} {kind : Kind}

theorem exists_addSection_iff :
    (∃ more, addSection source entries kind constants = .ok more) ↔
      ∃ inner, sectionOf entries kind = .mapping inner ∧
        ∀ entry ∈ inner, Defines (some kind) entry := by
  rw [addSection_eq]
  split
  · next inner content => simp [content, exists_addEntries_iff]
  · next other =>
    refine iff_of_false (by simp) ?_
    rintro ⟨inner, content, -⟩
    exact other inner content

theorem addSection_eq_tooLongToShow_iff :
    addSection source entries kind constants = .error .tooLongToShow ↔
      ∃ inner, sectionOf entries kind = .mapping inner ∧ Oversized (some kind) inner := by
  rw [addSection_eq]
  split
  · next inner content => simp [content, addEntries_eq_tooLongToShow_iff]
  · next other =>
    refine iff_of_false (by simp) ?_
    rintro ⟨inner, content, -⟩
    exact other inner content

/-- **A document is refused for what cannot be shown** exactly if its first bad
    entry is of that kind. -/
theorem ofDocument_eq_tooLongToShow_iff (source : String) :
    ofDocument source document = .error .tooLongToShow ↔ IsOversizedDocument document := by
  constructor
  · intro refused
    cases document with
    | mapping entries =>
      rw [ofDocument] at refused
      split at refused
      · next sectioned =>
        split at refused
        · next fault first =>
          cases refused
          obtain ⟨inner, content, oversized⟩ := addSection_eq_tooLongToShow_iff.mp first
          exact .integers sectioned content oversized
        · next integers first =>
          obtain ⟨inner, content, define⟩ := exists_addSection_iff.mp ⟨integers, first⟩
          obtain ⟨later, content', oversized⟩ := addSection_eq_tooLongToShow_iff.mp refused
          exact .strings sectioned content define content' oversized
      · next plain =>
        exact .flat (Bool.eq_false_iff.mpr plain) (addEntries_eq_tooLongToShow_iff.mp refused)
    | _ => cases refused
  · intro oversized
    cases oversized with
    | flat plain oversized =>
      rw [ofDocument, if_neg (by simp [plain])]
      exact addEntries_eq_tooLongToShow_iff.mpr oversized
    | integers sectioned content oversized =>
      have first : addSection source _ .integers {} = .error .tooLongToShow :=
        addSection_eq_tooLongToShow_iff.mpr ⟨_, content, oversized⟩
      rw [ofDocument, if_pos sectioned, first]
    | strings sectioned content define content' oversized =>
      obtain ⟨integers, first⟩ := exists_addSection_iff.mpr ⟨_, content, define⟩
      rw [ofDocument, if_pos sectioned, first]
      exact addSection_eq_tooLongToShow_iff.mpr ⟨_, content', oversized⟩

/-! ### Files -/

/-- The value that the text of a file is parsed to, by the name of the file. -/
def Parses (path : FilePath) (text : List Char) (value : Value) : Prop :=
  if path.suffix = ".json" then Json.parse (unifyLineEnds text) = .ok value
  else ∃ document, Yaml.parse (unifyLineEnds text) = .ok document ∧ value = valueOfYaml document

/-- The parser gives up a text for another reason than that it is malformed. -/
def GivesUp (path : FilePath) (text : List Char) : Prop :=
  if path.suffix = ".json" then
    ∃ fault, Json.parse (unifyLineEnds text) = .error fault ∧
      ∀ problem position line column, fault ≠ .malformed problem position line column
  else ∃ fault, Yaml.parse (unifyLineEnds text) = .error fault ∧ fault ≠ .malformed

def documentOf (value : Value) : Value := if value.isFalsy then .mapping [] else value

/-- What is wrong with a file is told otherwise than as an error of configuration. -/
inductive Escapes (name : String) (read : FilePath → FileContent) : Prop
  | impossibleName (nul : '\x00' ∈ name.toList)
  | noText {bytes : List Nat} (possible : '\x00' ∉ name.toList)
    (content : read (.ofText name) = .ok bytes) (noText : ∀ text, bytes ≠ Utf8.encode text)
  | givenUp {text : List Char} (possible : '\x00' ∉ name.toList)
    (content : read (.ofText name) = .ok (Utf8.encode text))
    (givesUp : GivesUp (.ofText name) text)
  | oversized {text : List Char} {value : Value} (possible : '\x00' ∉ name.toList)
    (content : read (.ofText name) = .ok (Utf8.encode text))
    (parses : Parses (.ofText name) text value)
    (oversized : IsOversizedDocument (documentOf value))

variable {path : FilePath} {content : FileContent} {read : FilePath → FileContent}

def parseText (path : FilePath) (text : List Char) : Except FileFault Value :=
  if path.suffix == ".json" then
    match Json.parse (unifyLineEnds text) with
    | .ok value => .ok value
    | .error (.malformed problem position line column) =>
      .error (.malformedJson path.render problem position line column)
    | .error fault => .error (.json fault)
  else
    match Yaml.parse (unifyLineEnds text) with
    | .ok document => .ok (valueOfYaml document)
    | .error .malformed => .error (.malformedYaml path.render)
    | .error fault => .error (.scalar fault)

/-- **What becomes of a text**: it has a value, or is malformed, or is given up. -/
theorem parseText_cases (path : FilePath) (text : List Char) :
    (∃ value, parseText path text = .ok value ∧ ¬ GivesUp path text ∧
      ∀ other, Parses path text other ↔ other = value) ∨
    ∃ fault, parseText path text = .error fault ∧
      (fault.isConfiguration = false ↔ GivesUp path text) ∧ ∀ other, ¬ Parses path text other := by
  by_cases json : path.suffix = ".json"
  · simp only [parseText, Parses, GivesUp, json, beq_self_eq_true, if_true]
    cases Json.parse (unifyLineEnds text) with
    | ok value => exact .inl ⟨value, rfl, by simp, by simp [eq_comm]⟩
    | error fault => cases fault <;> exact .inr ⟨_, rfl, by simp [FileFault.isConfiguration], by simp⟩
  · simp only [parseText, Parses, GivesUp, beq_iff_eq, json, if_false]
    cases Yaml.parse (unifyLineEnds text) with
    | ok document => exact .inl ⟨_, rfl, by simp, by simp⟩
    | error fault => cases fault <;> exact .inr ⟨_, rfl, by simp [FileFault.isConfiguration], by simp⟩

/-- **What becomes of the content of a file**: it is unreadable, or no text, or its
    text is parsed. -/
theorem readDocument_cases (path : FilePath) (content : FileContent) :
    (∃ fault, readDocument path content = .error fault ∧
      (fault.isConfiguration = false ↔ ∃ bytes, content = .ok bytes) ∧
      ∀ text, content ≠ .ok (Utf8.encode text)) ∨
    ∃ text, content = .ok (Utf8.encode text) ∧ readDocument path content = parseText path text := by
  cases content with
  | error problem => exact .inl ⟨_, rfl, by simp [FileFault.isConfiguration], by simp⟩
  | ok bytes =>
    cases decoded : Utf8.decode bytes with
    | ok text =>
      obtain rfl := Utf8.decode_eq_ok_iff.mp decoded
      exact .inr ⟨text, rfl, by rw [readDocument, decoded]; rfl⟩
    | error fault =>
      refine .inl ⟨.undecodable fault, by rw [readDocument, decoded], by
        simp [FileFault.isConfiguration], fun text same => ?_⟩
      obtain rfl := Except.ok.inj same
      cases decoded.symm.trans (Utf8.decode_eq_ok_iff.mpr rfl)

theorem escapes_iff_of_text {text : List Char} (possible : '\x00' ∉ name.toList)
    (content : read (.ofText name) = .ok (Utf8.encode text)) :
    Escapes name read ↔
      GivesUp (.ofText name) text ∨
        ∃ value, Parses (.ofText name) text value ∧ IsOversizedDocument (documentOf value) := by
  constructor
  · intro escapes
    cases escapes with
    | impossibleName nul => exact absurd nul possible
    | noText _ content' noText => exact absurd (Except.ok.inj (content'.symm.trans content)) (noText _)
    | givenUp _ content' givesUp =>
      obtain rfl := Utf8.encode_inj (Except.ok.inj (content'.symm.trans content))
      exact .inl givesUp
    | oversized _ content' parses oversized =>
      obtain rfl := Utf8.encode_inj (Except.ok.inj (content'.symm.trans content))
      exact .inr ⟨_, parses, oversized⟩
  · rintro (givesUp | ⟨value, parses, oversized⟩)
    · exact .givenUp possible content givesUp
    · exact .oversized possible content parses oversized

theorem FileFault.not_isConfiguration_document {fault : DocumentFault} :
    (FileFault.document fault).isConfiguration = false ↔ fault = .tooLongToShow := by
  cases fault <;> simp [FileFault.isConfiguration]

theorem ofFile_of_fault {fault : FileFault} (possible : '\x00' ∉ name.toList)
    (stops : readDocument (.ofText name) (read (.ofText name)) = .error fault) :
    ofFile name read = .error fault := by
  rw [ofFile, if_neg (by simpa using possible)]
  simp only [stops]

theorem ofFile_of_value (possible : '\x00' ∉ name.toList)
    (told : readDocument (.ofText name) (read (.ofText name)) = .ok value) :
    ofFile name read =
      (ofDocument (FilePath.ofText name).render (documentOf value)).mapError .document := by
  rw [ofFile, if_neg (by simpa using possible)]
  simp only [told, documentOf]
  cases ofDocument _ _ <;> rfl

/-- **A file of constants is read, or refused as an error of configuration**, except
    exactly for what escapes. -/
theorem ofFile_escapes_iff :
    (∃ fault, ofFile name read = .error fault ∧ fault.isConfiguration = false) ↔
      Escapes name read := by
  by_cases nul : '\x00' ∈ name.toList
  · have impossible : ofFile name read = .error .impossibleName := by
      rw [ofFile, if_pos (by simpa using nul)]
    exact iff_of_true ⟨_, impossible, rfl⟩ (.impossibleName nul)
  rcases readDocument_cases (.ofText name) (read (.ofText name)) with
    ⟨fault, stops, configuration, noText⟩ | ⟨text, content, isRead⟩
  · rw [ofFile_of_fault nul stops]
    constructor
    · rintro ⟨_, same, otherwise⟩
      cases same
      obtain ⟨bytes, content⟩ := configuration.mp otherwise
      exact .noText nul content fun text same => noText text (content.trans (congrArg _ same))
    · intro escapes
      refine ⟨fault, rfl, configuration.mpr ?_⟩
      cases escapes with
      | impossibleName nul' => exact absurd nul' nul
      | noText _ content _ => exact ⟨_, content⟩
      | givenUp _ content _ => exact absurd content (noText _)
      | oversized _ content _ _ => exact absurd content (noText _)
  · rw [escapes_iff_of_text nul content]
    rcases parseText_cases (.ofText name) text with
      ⟨value, parsed, goesOn, only⟩ | ⟨fault, stops, configuration, never⟩
    · rw [ofFile_of_value nul (isRead.trans parsed)]
      simp only [goesOn, only, exists_eq_left, false_or]
      rw [← ofDocument_eq_tooLongToShow_iff (FilePath.ofText name).render]
      cases ofDocument (FilePath.ofText name).render (documentOf value) with
      | ok constants => simp [Except.mapError]
      | error fault => simp [Except.mapError, FileFault.not_isConfiguration_document]
    · rw [ofFile_of_fault nul (isRead.trans stops)]
      simp [configuration, never]

/-! ### JSON files -/

theorem isShowable_documentOf (shows : value.isShowable = true) :
    (documentOf value).isShowable = true := by
  unfold documentOf
  split
  · rfl
  · exact shows

theorem isShowable_sectionOf (kind : Kind) (shows : (Value.mapping entries).isShowable = true) :
    (sectionOf entries kind).isShowable = true := by
  unfold sectionOf
  split
  · rfl
  · next key content found =>
    split
    · rfl
    · exact (Value.isShowable_mapping.mp shows _ (List.mem_of_find?_eq_some found)).2

theorem not_oversized_of_isShowable (shows : (Value.mapping entries).isShowable = true) :
    ¬ Oversized expected entries := by
  rintro ⟨before, entry, after, rfl, -, oversized⟩
  obtain ⟨keyShows, valueShows⟩ := Value.isShowable_mapping.mp shows entry (by simp)
  rcases oversized with hidden | ⟨-, hidden⟩
  · exact absurd keyShows (by simp [hidden])
  · exact absurd valueShows (by simp [hidden])

theorem not_isOversizedDocument_of_isShowable (shows : document.isShowable = true) :
    ¬ IsOversizedDocument document := by
  intro oversizedDocument
  cases oversizedDocument with
  | flat _ oversized => exact not_oversized_of_isShowable shows oversized
  | integers _ content oversized =>
    have sectionShows := isShowable_sectionOf .integers shows
    rw [content] at sectionShows
    exact not_oversized_of_isShowable sectionShows oversized
  | strings _ _ _ content oversized =>
    have sectionShows := isShowable_sectionOf .strings shows
    rw [content] at sectionShows
    exact not_oversized_of_isShowable sectionShows oversized

/-- **A JSON text within the limits does not escape**: it has no overlong numeral,
    and opens no more objects and arrays than may stand inside of each other. -/
theorem not_escapes_of_json {text : List Char} (possible : '\x00' ∉ name.toList)
    (json : (FilePath.ofText name).suffix = ".json")
    (content : read (.ofText name) = .ok (Utf8.encode text))
    (short : ¬ Json.HasLongNumeral (unifyLineEnds text))
    (shallow : Json.openings (unifyLineEnds text) ≤ Json.maxDepth) : ¬ Escapes name read := by
  rw [escapes_iff_of_text possible content]
  simp only [GivesUp, Parses, json, if_true]
  rintro (⟨fault, fails, other⟩ | ⟨value, parses, oversized⟩)
  · rcases Json.exceeds_of_parse_eq_error fails other with long | deep
    · exact short long
    · exact Nat.not_lt.mpr shallow deep
  · have shows := isShowable_documentOf (Json.isShowable_of_parse parses)
    exact not_isOversizedDocument_of_isShowable shows oversized

end Constants

end FieldRules
