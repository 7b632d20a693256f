/-
  FieldRules/Proofs/Constants/Shape.lean
  ======================================
  **The shapes that documents of constants have, and what is kept of their entries.**

  A document is taken as sections if it has keys and all of them name sections, and
  otherwise as one mapping; in either case all its entries have to be constants
  (`HasShape`).  Exactly such documents are read, and to what their entries say,
  one after the other (`ofDocument_eq_ok_iff`).

  Two entries whose keys have the same text say something of the same name.  If
  they are of one kind, the last word holds, so that the tables have an entry less;
  otherwise nothing is lost (`length_entries_eq_iff`).

  A file is read likewise, but that whatever counts as nothing is let pass as the
  empty mapping, as a document and as a section: an empty list, zero, the empty
  text (`file_read_iff_shape`).
-/
import FieldRules.Proofs.Constants.Escaping
import FieldRules.Proofs.Engine.Loading
import Mathlib.Data.List.Perm.Subperm

namespace FieldRules

open FieldRules.Text

namespace Constants

/-! ### What is kept of what is said -/

variable {constants : Constants} {said : List (String × Constant)} {name : String}
  {constant : Constant}

theorem mem_entries_iff_holds (sound : constants.Sound) :
    (name, constant) ∈ constants.entries ↔ constants.Holds name constant := by
  cases constant with
  | integer value =>
    rw [Holds, Table.get?_eq_some_iff_mem sound.integersOnce]
    simp [entries]
  | string value =>
    rw [Holds, Table.get?_eq_some_iff_mem sound.stringsOnce]
    simp [entries]

theorem nodup_of_saysOnce (once : SaysOnce said) : said.Nodup := by
  refine once.imp fun apart same => ?_
  rw [same] at apart
  exact apart rfl rfl

theorem not_holds_empty : ¬ Holds {} name constant := by
  cases constant <;> exact nofun

/-- In tables that start empty a name stands for the last that was said of it. -/
theorem holds_extend_empty_iff :
    (extend {} said).Holds name constant ↔ SaysLast said name constant := by
  rw [holds_extend_iff_saysLast]
  exact or_iff_left fun held => not_holds_empty held.1

/-- Nothing is in the tables but what was said. -/
theorem entries_extend_subperm (sound : (extend {} said).Sound) :
    (extend {} said).entries.Subperm said := by
  refine (nodup_of_saysOnce (saysOnce_entries sound)).subperm fun entry member => ?_
  obtain ⟨before, after, rfl, -⟩ :=
    holds_extend_empty_iff.mp ((mem_entries_iff_holds sound).mp member)
  exact List.mem_append_right _ List.mem_cons_self

/-- **Everything that was said is in the tables** exactly if no name was given two constants
    of one kind. -/
theorem perm_entries_iff (sound : (extend {} said).Sound) :
    (extend {} said).entries.Perm said ↔ SaysOnce said := by
  constructor
  · intro same
    refine (same.pairwise_iff fun apart isName => ?_).mp (saysOnce_entries sound)
    exact (apart isName.symm).symm
  · intro once
    have kept : (extend {} said).entries.Nodup := nodup_of_saysOnce (saysOnce_entries sound)
    refine (List.perm_ext_iff_of_nodup kept (nodup_of_saysOnce once)).mpr fun entry => ?_
    rw [← saysLast_iff_mem once, ← holds_extend_empty_iff]
    exact mem_entries_iff_holds sound

theorem length_entries_eq_iff (sound : (extend {} said).Sound) :
    (extend {} said).entries.length = said.length ↔ SaysOnce said := by
  rw [← perm_entries_iff sound]
  constructor
  · intro same
    exact (entries_extend_subperm sound).perm_of_length_le same.ge
  · exact List.Perm.length_eq

/-! ### Entries of a document -/

/-- The constant that a value is: an integer that has a place in 64 unsigned bits, or a text. -/
def constantOf? : Value → Option Constant
  | .integer number => (unsigned? number).map .integer
  | other => other.text?.map .string

/-- What the entries of a mapping say, each under the text of its key. -/
def saidBy (entries : List (Value × Value)) : List (String × Constant) :=
  entries.filterMap fun entry => (constantOf? entry.2).map (entry.1.plainText, ·)

variable {source : String} {expected : Option Kind} {value : Value}
  {entries : List (Value × Value)}

theorem addValue_eq_put (source : String) (isConstant : IsConstant expected value) :
    ∃ constant, constantOf? value = some constant ∧ ∀ (constants : Constants) name,
      addValue source expected constants name value = .ok (constants.put (name, constant)).1 := by
  rcases isConstant with ⟨number, fits, rfl, notStrings⟩ | ⟨content, text, notIntegers⟩
  · have plain : (expected == some Kind.strings) = false := by simpa using notStrings
    refine ⟨.integer number, ?_, fun constants name => ?_⟩
    · simp [constantOf?, unsigned?_natCast fits]
    · simp [addValue, plain, unsigned?_natCast fits, put, setInteger]
  · have plain : (expected == some Kind.integers) = false := by simpa using notIntegers
    cases value with
    | text other | namedText _ other =>
      cases text
      refine ⟨.string content, rfl, fun constants name => ?_⟩
      simp [addValue, Value.text?, plain, put, setString]
    | _ => cases text

theorem saidBy_cons {key : Value} (isConstant : constantOf? value = some constant) :
    saidBy ((key, value) :: entries) = (key.plainText, constant) :: saidBy entries :=
  List.filterMap_cons_some (by rw [isConstant]; rfl)

theorem addEntries_eq_extend (define : ∀ entry ∈ entries, Defines expected entry)
    (constants : Constants) :
    addEntries source expected constants entries = .ok (constants.extend (saidBy entries)) := by
  induction entries generalizing constants with
  | nil => rfl
  | cons entry rest ih =>
    obtain ⟨key, value⟩ := entry
    obtain ⟨first, later⟩ := List.forall_mem_cons.mp define
    obtain ⟨constant, isConstant, added⟩ := addValue_eq_put source first.2
    rw [addEntries, if_neg (by simp [first.1]), added, saidBy_cons isConstant]
    exact ih later _

theorem length_saidBy (define : ∀ entry ∈ entries, ∃ expected, Defines expected entry) :
    (saidBy entries).length = entries.length := by
  induction entries with
  | nil => rfl
  | cons entry rest ih =>
    obtain ⟨key, value⟩ := entry
    obtain ⟨⟨expected, first⟩, later⟩ := List.forall_mem_cons.mp define
    obtain ⟨constant, isConstant, -⟩ := addValue_eq_put "" first.2
    rw [saidBy_cons isConstant, List.length_cons, List.length_cons, ih later]

/-! ### Documents -/

/-- A mapping in sections: it has keys, and all of them name sections. -/
def IsSectioned (entries : List (Value × Value)) : Prop :=
  entries ≠ [] ∧ ∀ entry ∈ entries, ∃ kind : Kind, entry.1.text? = some kind.sectionName

theorem isSectionKey_iff {key : Value} :
    isSectionKey key = true ↔ ∃ kind : Kind, key.text? = some kind.sectionName := by
  unfold isSectionKey
  cases key.text? with
  | none => simp
  | some text =>
    simp only [Bool.or_eq_true, beq_iff_eq, Option.some.injEq]
    constructor
    · rintro (rfl | rfl)
      · exact ⟨.integers, rfl⟩
      · exact ⟨.strings, rfl⟩
    · rintro ⟨_ | _, rfl⟩
      · exact .inl rfl
      · exact .inr rfl

theorem isSectioned_iff : isSectioned entries = true ↔ IsSectioned entries := by
  rw [isSectioned, IsSectioned, Bool.and_eq_true, List.all_eq_true]
  simp only [isSectionKey_iff]
  simp

/-- A document has one of the two shapes of constants, and these are the entries that define
    them: a mapping of constants of either kind, or sections with constants of their kinds. -/
inductive HasShape : Value → List (Value × Value) → Prop
  | flat {entries : List (Value × Value)} (plain : ¬ IsSectioned entries)
    (define : ∀ entry ∈ entries, Defines none entry) : HasShape (.mapping entries) entries
  | sections {entries integers strings : List (Value × Value)} (sectioned : IsSectioned entries)
    (content : sectionOf entries .integers = .mapping integers)
    (define : ∀ entry ∈ integers, Defines (some .integers) entry)
    (content' : sectionOf entries .strings = .mapping strings)
    (define' : ∀ entry ∈ strings, Defines (some .strings) entry) :
    HasShape (.mapping entries) (integers ++ strings)

variable {document : Value} {contents : List (Value × Value)}

/-- Each entry of a document says something. -/
theorem HasShape.length_saidBy (shape : HasShape document contents) :
    (saidBy contents).length = contents.length := by
  refine Constants.length_saidBy fun entry member => ?_
  cases shape with
  | flat plain define => exact ⟨_, define entry member⟩
  | sections sectioned content define content' define' =>
    rcases List.mem_append.mp member with integer | string
    · exact ⟨_, define entry integer⟩
    · exact ⟨_, define' entry string⟩

theorem addSection_eq_extend {kind : Kind} {inner : List (Value × Value)}
    (content : sectionOf entries kind = .mapping inner)
    (define : ∀ entry ∈ inner, Defines (some kind) entry) (constants : Constants) :
    addSection source entries kind constants = .ok (constants.extend (saidBy inner)) := by
  rw [addSection_eq, content]
  exact addEntries_eq_extend define constants

/-- A document of constants is read to what its entries say. -/
theorem HasShape.ofDocument_eq (shape : HasShape document contents) (source : String) :
    ofDocument source document = .ok (extend {} (saidBy contents)) := by
  cases shape with
  | flat plain define =>
    rw [ofDocument, if_neg (isSectioned_iff.not.mpr plain)]
    exact addEntries_eq_extend define {}
  | sections sectioned content define content' define' =>
    rw [ofDocument, if_pos (isSectioned_iff.mpr sectioned), addSection_eq_extend content define]
    refine (addSection_eq_extend content' define' _).trans (congrArg Except.ok ?_)
    rw [saidBy, saidBy, saidBy, List.filterMap_append, extend, extend, extend, List.foldl_append]

theorem exists_shape_of_ofDocument (read : ofDocument source document = .ok constants) :
    ∃ contents, HasShape document contents := by
  cases document with
  | mapping entries =>
    rw [ofDocument] at read
    split at read
    · next sectioned =>
      split at read
      · cases read
      · next first added =>
        obtain ⟨integers, content, define⟩ := exists_addSection_iff.mp ⟨first, added⟩
        obtain ⟨strings, content', define'⟩ := exists_addSection_iff.mp ⟨constants, read⟩
        exact ⟨_, .sections (isSectioned_iff.mp sectioned) content define content' define'⟩
    · next plain =>
      exact ⟨_, .flat (isSectioned_iff.not.mp plain) (exists_addEntries_iff.mp ⟨_, read⟩)⟩
  | _ => cases read

/-- **Exactly the documents of one of the two shapes are read**, and to what their entries say. -/
theorem ofDocument_eq_ok_iff :
    ofDocument source document = .ok constants ↔
      ∃ contents, HasShape document contents ∧ extend {} (saidBy contents) = constants := by
  constructor
  · intro read
    obtain ⟨contents, shape⟩ := exists_shape_of_ofDocument read
    exact ⟨contents, shape, Except.ok.inj ((shape.ofDocument_eq source).symm.trans read)⟩
  · rintro ⟨contents, shape, rfl⟩
    exact shape.ofDocument_eq source

/-- **What is kept of a document** is the last that its entries say of each name and kind; this
    is all they say exactly if none of them says anything of a name and kind again. -/
theorem exists_contents_of_ofDocument (read : ofDocument source document = .ok constants) :
    ∃ contents, HasShape document contents ∧
      (saidBy contents).length = contents.length ∧
      (∀ name constant, constants.Holds name constant ↔
        SaysLast (saidBy contents) name constant) ∧
      constants.entries.length ≤ contents.length ∧
      (constants.entries.length = contents.length ↔ SaysOnce (saidBy contents)) ∧
      (SaysOnce (saidBy contents) → constants.entries.Perm (saidBy contents)) := by
  obtain ⟨contents, shape, rfl⟩ := ofDocument_eq_ok_iff.mp read
  have sound := sound_of_ofDocument read
  refine ⟨contents, shape, shape.length_saidBy, fun name constant => holds_extend_empty_iff,
    ?_, ?_, (perm_entries_iff sound).mpr⟩
  · rw [← shape.length_saidBy]
    exact (entries_extend_subperm sound).length_le
  · rw [← shape.length_saidBy]
    exact length_entries_eq_iff sound

/-! ### Files -/

theorem hasShape_empty : HasShape (.mapping []) [] :=
  .flat (fun sectioned => sectioned.1 rfl) (List.forall_mem_nil _)

theorem exists_ofDocument_documentOf_iff :
    (∃ constants, ofDocument source (documentOf document) = .ok constants) ↔
      document.isFalsy = true ∨ ∃ contents, HasShape document contents := by
  unfold documentOf
  by_cases nothing : document.isFalsy = true
  · rw [if_pos nothing]
    exact iff_of_true ⟨_, hasShape_empty.ofDocument_eq source⟩ (.inl nothing)
  · rw [if_neg nothing, or_iff_right nothing]
    simp only [ofDocument_eq_ok_iff]
    rw [exists_comm]
    simp

theorem ofDocument_documentOf_eq_tooLongToShow_iff :
    ofDocument source (documentOf document) = .error .tooLongToShow ↔
      document.isFalsy = false ∧ IsOversizedDocument document := by
  unfold documentOf
  by_cases nothing : document.isFalsy = true
  · rw [if_pos nothing, nothing, hasShape_empty.ofDocument_eq]
    exact iff_of_false nofun nofun
  · rw [if_neg nothing, Bool.eq_false_iff, ofDocument_eq_tooLongToShow_iff]
    exact (and_iff_right nothing).symm

/-- **A file of constants is read exactly if its document counts as nothing or has a shape.**
    Let the file be parsed to a document.  If this counts as nothing (null, but also an empty
    list, zero, the empty text) or has one of the shapes of constants, where a section may be
    missing or count as nothing, then the file is read.  If not, that is an error of
    configuration, unless the first bad entry is too long to be shown.

    What is read are the entries of the document, each under the text of its key and with
    its own value in the table of its kind.  Of entries of one kind whose keys have the same
    text the last one holds, so the tables have as many entries as the document, and the
    same, exactly if there are no such entries. -/
theorem file_read_iff_shape {name : String} {read : FilePath → FileContent} {document : Value}
    (possible : '\x00' ∉ name.toList)
    (told : readDocument (.ofText name) (read (.ofText name)) = .ok document) :
    ((∃ constants, ofFile name read = .ok constants) ↔
      document.isFalsy = true ∨ ∃ contents, HasShape document contents) ∧
    ((∃ fault, ofFile name read = .error fault ∧ fault.isConfiguration = true) ↔
      document.isFalsy = false ∧ (¬ ∃ contents, HasShape document contents) ∧
        ¬ IsOversizedDocument document) ∧
    ∀ constants, ofFile name read = .ok constants →
      ∃ contents, HasShape (documentOf document) contents ∧
        (saidBy contents).length = contents.length ∧
        (∀ known constant, constants.Holds known constant ↔
          SaysLast (saidBy contents) known constant) ∧
        constants.entries.length ≤ contents.length ∧
        (constants.entries.length = contents.length ↔ SaysOnce (saidBy contents)) ∧
        (SaysOnce (saidBy contents) → constants.entries.Perm (saidBy contents)) := by
  rw [ofFile_of_value possible told]
  generalize source : (FilePath.ofText name).render = path
  have isRead : (∃ constants, ofDocument path (documentOf document) = .ok constants) ↔
      document.isFalsy = true ∨ ∃ contents, HasShape document contents :=
    exists_ofDocument_documentOf_iff
  have isHidden : ofDocument path (documentOf document) = .error .tooLongToShow ↔
      document.isFalsy = false ∧ IsOversizedDocument document :=
    ofDocument_documentOf_eq_tooLongToShow_iff
  rw [← Bool.not_eq_true]
  cases done : ofDocument path (documentOf document) with
  | ok constants =>
    have shaped := isRead.mp ⟨constants, done⟩
    refine ⟨iff_of_true ⟨constants, rfl⟩ shaped, iff_of_false nofun ?_, ?_⟩
    · rintro ⟨something, noShape, -⟩
      exact shaped.elim something noShape
    · intro same told
      cases told
      exact exists_contents_of_ofDocument done
  | error fault =>
    have notShaped : ¬ (document.isFalsy = true ∨ ∃ contents, HasShape document contents) := by
      rw [← isRead, done]
      rintro ⟨constants, ⟨⟩⟩
    obtain ⟨something, noShape⟩ := not_or.mp notShaped
    rw [done, Except.error.injEq, ← FileFault.not_isConfiguration_document] at isHidden
    refine ⟨iff_of_false nofun notShaped, ?_, nofun⟩
    constructor
    · rintro ⟨refusal, same, configuration⟩
      cases same
      refine ⟨something, noShape, fun oversized => ?_⟩
      rw [isHidden.mpr ⟨Bool.eq_false_iff.mpr something, oversized⟩] at configuration
      cases configuration
    · rintro ⟨-, -, shown⟩
      refine ⟨.document fault, rfl, ?_⟩
      by_contra escapes
      exact shown (isHidden.mp (Bool.eq_false_iff.mpr escapes)).2

/-- A file in which an empty list stands in place of the strings. -/
def halfListed : Directory :=
  [(["c.json"],
    "\x7b\"integers\": \x7b\"LIMIT\": 7\x7d, \"strings\": []\x7d".toList.map Char.toNat)]

theorem ofFile_halfListed :
    ofFile "c.json" halfListed.read = .ok { integers := [("LIMIT", 7)] } := by
  apply eq_ok_of_toOption
  rw [ofFile, if_neg (by decide), Engine.ofText_c_json]
  decide +kernel

/-- The empty list is let pass, and what the file holds is what its entries say. -/
theorem file_read_iff_shape_of_halfListed :
    ∃ document contents,
      readDocument (.ofText "c.json") (halfListed.read (.ofText "c.json")) = .ok document ∧
      HasShape (documentOf document) contents ∧
      SaysLast (saidBy contents) "LIMIT" (.integer 7) := by
  have possible : '\x00' ∉ "c.json".toList := by decide
  obtain ⟨document, told⟩ : ∃ document,
      readDocument (.ofText "c.json") (halfListed.read (.ofText "c.json")) = .ok document := by
    cases told : readDocument (.ofText "c.json") (halfListed.read (.ofText "c.json")) with
    | ok document => exact ⟨document, rfl⟩
    | error fault => cases (ofFile_of_fault possible told).symm.trans ofFile_halfListed
  obtain ⟨-, -, kept⟩ := file_read_iff_shape possible told
  obtain ⟨contents, shape, -, holds, -⟩ := kept _ ofFile_halfListed
  exact ⟨document, contents, told, shape, (holds "LIMIT" (.integer 7)).mp rfl⟩

/-- A file with an empty list. -/
def emptyList : Directory := [(["c.json"], "[]".toList.map Char.toNat)]

theorem readDocument_emptyList :
    readDocument (.ofText "c.json") (emptyList.read (.ofText "c.json")) = .ok (.list []) := by
  rw [Engine.ofText_c_json]
  rfl

/-- Not every document that is read is null or a mapping, nor is every section of such a
    mapping, and not every entry is kept: an empty list is let pass in either place, and of
    two keys that have the same text, as 1 and '1' have, one is lost. -/
theorem empty_lists_pass_and_like_keys_are_lost :
    (¬ ∀ (name : String) (read : FilePath → FileContent) (document : Value) (constants : Constants),
      readDocument (.ofText name) (read (.ofText name)) = .ok document →
      ofFile name read = .ok constants →
      document = .none ∨ ∃ entries, document = .mapping entries) ∧
    (¬ ∀ (source : String) (entries : List (Value × Value)) (constants : Constants),
      IsSectioned entries → ofDocument source (.mapping entries) = .ok constants →
      ∀ entry ∈ entries, entry.2 = .none ∨ ∃ inner, entry.2 = .mapping inner) ∧
    ¬ ∀ (source : String) (entries : List (Value × Value)) (constants : Constants),
      ¬ IsSectioned entries → ofDocument source (.mapping entries) = .ok constants →
      constants.entries.length = entries.length := by
  refine ⟨fun claimed => ?_, fun claimed => ?_, fun claimed => ?_⟩
  · obtain ⟨constants, done⟩ : ∃ constants, ofFile "c.json" emptyList.read = .ok constants := by
      rw [ofFile_of_value (by decide) readDocument_emptyList]
      exact ⟨{}, rfl⟩
    rcases claimed _ _ _ _ readDocument_emptyList done with ⟨⟨⟩⟩ | ⟨entries, ⟨⟩⟩
  · let entries : List (Value × Value) := [(.text "strings", .list [])]
    have sectioned : IsSectioned entries := isSectioned_iff.mp (by decide +kernel)
    have done : ofDocument "" (.mapping entries) = .ok {} := by rfl
    rcases claimed _ _ _ sectioned done _ List.mem_cons_self with ⟨⟨⟩⟩ | ⟨inner, ⟨⟩⟩
  · let entries : List (Value × Value) := [(.integer 1, .integer 5), (.text "1", .integer 6)]
    have plain : ¬ IsSectioned entries := isSectioned_iff.not.mp (by decide +kernel)
    have done : ofDocument "" (.mapping entries) = .ok { integers := [("1", 6)] } := by
      apply eq_ok_of_toOption
      decide +kernel
    exact absurd (claimed "" entries _ plain done) (by decide)

end Constants

end FieldRules
