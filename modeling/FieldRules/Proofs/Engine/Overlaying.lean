/-
  FieldRules/Proofs/Engine/Overlaying.lean
  ========================================
  **A file that is loaded lies over the constants that were there.**

  Registering the entries of a file lays each of its tables over the table of the
  kind (`extend_entries`): a name has what the file gives it, and what it had
  before where the file gives it nothing (`Table.get?_overlay`).  What a name
  stands for comes of both tables, integers first.  So an integer of the file hides
  an earlier string, and a string of the file is hidden by an integer, be it of the
  file or an earlier one (`lookup?_extend_entries`).

  A file says each thing once.  So no entry of it meets another one of the same
  file, and all warnings are about what was there before (`warnings_notices`).
-/
import FieldRules.Proofs.Engine.Loading

namespace FieldRules

/-! ### A table over another one -/

namespace Table

variable {α : Type}

def overlay (table other : Table α) : Table α :=
  other.foldl (fun sofar item => sofar.insert item.1 item.2) table

theorem overlay_cons (table : Table α) (name : String) (entry : α) (rest : Table α) :
    table.overlay ((name, entry) :: rest) = (table.insert name entry).overlay rest := rfl

/-- **What lies on top holds**, and what lies below it where nothing is on top. -/
theorem get?_overlay (table : Table α) {other : Table α} (once : other.names.Nodup)
    (name : String) : (table.overlay other).get? name = (other.get? name).or (table.get? name) := by
  induction other generalizing table with
  | nil => rfl
  | cons head rest ih =>
    obtain ⟨known, entry⟩ := head
    have once : known ∉ names rest ∧ (names rest).Nodup := List.nodup_cons.mp once
    rw [overlay_cons, ih _ once.2]
    by_cases same : name = known
    · subst same
      have absent : get? rest name = none := by
        have notThere : ¬ has rest name = true := fun there => once.1 (has_iff_mem_names.mp there)
        simpa [has] using notThere
      rw [absent, get?_insert_self]
      simp [get?]
    · have other : (name == known) = false := by simp [same]
      rw [get?_insert_of_ne table entry same]
      simp [get?, List.lookup_cons, other]

end Table

namespace Constants

variable {constants file : Constants} {name : String}

/-- **The entries of a file are laid over the constants**, kind by kind. -/
theorem extend_entries (constants file : Constants) :
    constants.extend file.entries =
      { integers := constants.integers.overlay file.integers
        strings := constants.strings.overlay file.strings } := by
  have integers (constants : Constants) (table : Table Nat) :
      constants.extend (table.map fun entry => (entry.1, .integer entry.2)) =
        { constants with integers := constants.integers.overlay table } := by
    induction table generalizing constants with
    | nil => rfl
    | cons entry rest ih => exact ih _
  have strings (constants : Constants) (table : Table String) :
      constants.extend (table.map fun entry => (entry.1, .string entry.2)) =
        { constants with strings := constants.strings.overlay table } := by
    induction table generalizing constants with
    | nil => rfl
    | cons entry rest ih => exact ih _
  rw [entries, extend, List.foldl_append]
  exact (congrArg (extend · _) (integers _ _)).trans (strings _ _)

theorem lookup?_eq_or (constants : Constants) (name : String) :
    constants.lookup? name =
      ((constants.integers.get? name).map .integer).or
        ((constants.strings.get? name).map .string) := by
  unfold lookup?
  cases constants.integers.get? name <;> rfl

/-- What a name stands for under a file: an integer of the file or an earlier one, and else
    a string of the file or an earlier one. -/
theorem lookup?_extend_entries (constants : Constants) (sound : file.Sound) (name : String) :
    (constants.extend file.entries).lookup? name =
      (((file.integers.get? name).or (constants.integers.get? name)).map .integer).or
        (((file.strings.get? name).or (constants.strings.get? name)).map .string) := by
  rw [lookup?_eq_or, extend_entries, Table.get?_overlay _ sound.integersOnce,
    Table.get?_overlay _ sound.stringsOnce]

/-- **The same file once more changes no name.** -/
theorem lookup?_extend_entries_again (constants : Constants) (sound : file.Sound) (name : String) :
    ((constants.extend file.entries).extend file.entries).lookup? name =
      (constants.extend file.entries).lookup? name := by
  rw [lookup?_extend_entries _ sound, lookup?_extend_entries _ sound, extend_entries,
    Table.get?_overlay _ sound.integersOnce, Table.get?_overlay _ sound.stringsOnce,
    ← Option.or_assoc, ← Option.or_assoc, Option.or_self, Option.or_self]

/-! ### Warnings -/

/-- Whether a name stands in the table of a kind. -/
def knows (constants : Constants) : Kind → String → Bool
  | .integers => constants.integers.has
  | .strings => constants.strings.has

def Kind.use : Kind → NameUse
  | .integers => .integer
  | .strings => .string

/-- The warning about an entry whose name stands in the table of its kind. -/
def overwriting (entry : String × Constant) : Notice := .overwritten entry.2.kind.use entry.1

/-- What is noted while some constants are registered, in order. -/
def notices (constants : Constants) : List (String × Constant) → List Notice
  | [] => []
  | entry :: rest => (constants.put entry).2 ++ (constants.put entry).1.notices rest

theorem warnings_put (constants : Constants) (entry : String × Constant) :
    (constants.put entry).2.filter Notice.isWarning =
      if constants.knows entry.2.kind entry.1 then [overwriting entry] else [] := by
  have told {α : Type} (table : Table α) (use : NameUse) (name : String) (detail : Notice)
      (isDetail : detail.isWarning = false) :
      (overwriteNotice use table name ++ [detail]).filter Notice.isWarning =
        if table.has name then [.overwritten use name] else [] := by
    have warns : (Notice.overwritten use name).isWarning = true := rfl
    rw [overwriteNotice]
    split <;> simp [isDetail, warns]
  obtain ⟨name, value | text⟩ := entry
  · exact told constants.integers .integer name _ rfl
  · exact told constants.strings .string name _ rfl

/-- What is put under a name is no news to the other names, nor to the other kind. -/
theorem knows_put_of_ne {entry : String × Constant} {kind : Kind}
    (apart : entry.1 = name → entry.2.kind ≠ kind) :
    (constants.put entry).1.knows kind name = constants.knows kind name := by
  obtain ⟨known, value | text⟩ := entry <;> cases kind
  · have other : name ≠ known := fun same => apart same.symm rfl
    simp [put, setInteger, knows, Table.has, Table.get?_insert_of_ne _ _ other]
  · rfl
  · rfl
  · have other : name ≠ known := fun same => apart same.symm rfl
    simp [put, setString, knows, Table.has, Table.get?_insert_of_ne _ _ other]

/-- **Where each thing is said once, the warnings are about what was there before**: one for
    each entry whose name stood in the table of its kind, in order. -/
theorem warnings_notices (constants : Constants) {entries : List (String × Constant)}
    (once : SaysOnce entries) :
    (constants.notices entries).filter Notice.isWarning =
      (entries.filter fun entry => constants.knows entry.2.kind entry.1).map overwriting := by
  induction entries generalizing constants with
  | nil => rfl
  | cons entry rest ih =>
    obtain ⟨apart, once⟩ := List.pairwise_cons.mp once
    have later : (rest.filter fun other => (constants.put entry).1.knows other.2.kind other.1) =
        rest.filter fun other => constants.knows other.2.kind other.1 :=
      List.filter_congr fun other member => knows_put_of_ne (apart other member)
    rw [notices, List.filter_append, warnings_put, ih _ once, later, List.filter_cons]
    split <;> rfl

end Constants

namespace Engine

variable {engine : Engine} {entries : List (String × Constant)} {path : String}
  {read : FilePath → FileContent} {file : Constants} {count : Nat}

/-! ### Registering all entries -/

theorem registerEach_of_named (engine : Engine)
    (named : ∀ entry ∈ entries, Name.isName entry.1.toList = true)
    (fits : ∀ name value, (name, .integer value) ∈ entries → value < integerModulus) :
    engine.registerEach entries =
      (engine.withConstants entries, engine.constants.notices entries, .ok ()) := by
  induction entries generalizing engine with
  | nil => rfl
  | cons entry rest ih =>
    obtain ⟨name, constant⟩ := entry
    rw [List.forall_mem_cons] at named
    have fitsFirst : ∀ value, constant = .integer value → value < integerModulus := by
      rintro value rfl
      exact fits name value List.mem_cons_self
    rw [registerEach_cons named.1 fitsFirst,
      ih _ named.2 fun name value member => fits name value (.tail _ member)]
    rfl

theorem named_of_registerEach (done : (engine.registerEach entries).2.2 = .ok ())
    (fits : ∀ name value, (name, .integer value) ∈ entries → value < integerModulus) :
    ∀ entry ∈ entries, Name.isName entry.1.toList = true := by
  induction entries generalizing engine with
  | nil => exact List.forall_mem_nil _
  | cons entry rest ih =>
    obtain ⟨name, constant⟩ := entry
    cases named : Name.isName name.toList with
    | false =>
      rw [registerEach_of_not_isName named] at done
      cases done
    | true =>
      have fitsFirst : ∀ value, constant = .integer value → value < integerModulus := by
        rintro value rfl
        exact fits name value List.mem_cons_self
      rw [registerEach_cons named fitsFirst] at done
      exact List.forall_mem_cons.mpr
        ⟨named, ih done fun name value member => fits name value (.tail _ member)⟩

/-! ### Loading a whole file -/

/-- What loading a file with possible names leads to, whatever was there before. -/
theorem loadConstants_of_named (engine : Engine) (told : Constants.ofFile path read = .ok file)
    (named : ∀ entry ∈ file.entries, Name.isName entry.1.toList = true) :
    engine.loadConstants path read =
      { engine := engine.withConstants file.entries
        notices := engine.constants.notices file.entries ++
          [.constantsRegistered file.integers.length file.strings.length path]
        result := .ok (file.integers.length + file.strings.length) } := by
  have all := registerEach_of_named engine named fun name value member =>
    Constants.fits_of_mem_entries (Constants.sound_of_ofFile told) member
  rw [Constants.entries] at all
  rw [loadConstants, told]
  dsimp only
  rw [all]
  rfl

/-- A file that is loaded has been read, and all its names are possible. -/
theorem exists_named_of_loadConstants
    (loaded : (engine.loadConstants path read).result = .ok count) :
    ∃ file, Constants.ofFile path read = .ok file ∧
      ∀ entry ∈ file.entries, Name.isName entry.1.toList = true := by
  cases told : Constants.ofFile path read with
  | error fault =>
    rw [loadConstants_of_file_fault told] at loaded
    cases loaded
  | ok file =>
    obtain ⟨-, fails⟩ := loadConstants_of_constants engine told
    have done : (engine.registerEach file.entries).2.2 = .ok () := by
      cases outcome : (engine.registerEach file.entries).2.2 with
      | ok done => rfl
      | error error => cases ((fails error).mpr outcome).symm.trans loaded
    exact ⟨file, rfl, named_of_registerEach done fun name value member =>
      Constants.fits_of_mem_entries (Constants.sound_of_ofFile told) member⟩

/-- **A file that is loaded lies over the constants, and changes nothing else.**  Its integers
    are looked up by their names; so are its strings, except where an integer of the name is in
    the file or was there before; every other name stands for what it stood for.  There is one
    warning for each entry of the file whose name stood in the table of its kind, and no other.
    Loading the file once more succeeds and changes no name. -/
theorem loading_overlays_file (loaded : (engine.loadConstants path read).result = .ok count) :
    ∃ file, Constants.ofFile path read = .ok file ∧
      let loading := engine.loadConstants path read
      let after := loading.engine.constants
      (∀ name value, file.integers.get? name = some value →
        after.lookup? name = some (.integer value)) ∧
      (∀ name text, file.strings.get? name = some text → file.integers.get? name = none →
        engine.constants.integers.get? name = none → after.lookup? name = some (.string text)) ∧
      (∀ name, file.integers.get? name = none →
        (file.strings.get? name = none ∨ engine.constants.integers.get? name ≠ none) →
        after.lookup? name = engine.constants.lookup? name) ∧
      loading.notices.filter Notice.isWarning =
        (file.entries.filter fun entry => engine.constants.knows entry.2.kind entry.1).map
          Constants.overwriting ∧
      loading.engine = { engine with constants := after } ∧
      (loading.engine.loadConstants path read).result = .ok count ∧
      ∀ name, (loading.engine.loadConstants path read).engine.constants.lookup? name =
        after.lookup? name := by
  obtain ⟨file, told, named⟩ := exists_named_of_loadConstants loaded
  have sound := Constants.sound_of_ofFile told
  have first := loadConstants_of_named engine told named
  have again := loadConstants_of_named (engine.withConstants file.entries) told named
  rw [first] at loaded
  refine ⟨file, told, ?_⟩
  simp only [first, again]
  have looked := Constants.lookup?_extend_entries engine.constants sound
  refine ⟨fun name value inFile => ?_, fun name text inFile noInteger noEarlier => ?_,
    fun name noInteger noString => ?_, ?_, rfl, loaded,
    Constants.lookup?_extend_entries_again engine.constants sound⟩
  · exact (looked name).trans (by simp [inFile])
  · exact (looked name).trans (by simp [inFile, noInteger, noEarlier])
  · apply (looked name).trans
    rw [Constants.lookup?_eq_or, noInteger, Option.none_or]
    rcases noString with noString | earlier
    · rw [noString, Option.none_or]
    · obtain ⟨value, isEarlier⟩ := Option.ne_none_iff_exists'.mp earlier
      rw [isEarlier]
      rfl
  · rw [List.filter_append, Constants.warnings_notices _ (Constants.saysOnce_entries sound)]
    simp [Notice.isWarning]

/-- A file with two integers and two strings. -/
def limits : Directory :=
  [(["c.json"],
    "\x7b\"LIMIT\": 3, \"FLAG\": 1, \"CODE\": \"ab\", \"OLD\": \"x\"\x7d".toList.map Char.toNat)]

theorem ofFile_limits : Constants.ofFile "c.json" limits.read =
    .ok { integers := [("LIMIT", 3), ("FLAG", 1)], strings := [("CODE", "ab"), ("OLD", "x")] } := by
  apply eq_ok_of_toOption
  rw [Constants.ofFile, if_neg (by decide), ofText_c_json]
  decide +kernel

/-- An engine that knows the names of the file already, two of them as the other kind. -/
def informed : Engine :=
  { constants :=
      { integers := [("LIMIT", 7), ("OLD", 9)]
        strings := [("CODE", "zz"), ("FLAG", "f"), ("REST", "r")] } }

theorem loading_overlays_limits :
    (informed.loadConstants "c.json" limits.read).result = .ok 4 ∧
      let loading := informed.loadConstants "c.json" limits.read
      loading.engine.constants.lookup? "FLAG" = some (.integer 1) ∧
      loading.engine.constants.lookup? "CODE" = some (.string "ab") ∧
      loading.engine.constants.lookup? "OLD" = some (.integer 9) ∧
      loading.engine.constants.lookup? "REST" = some (.string "r") ∧
      loading.notices.filter Notice.isWarning =
        [.overwritten .integer "LIMIT", .overwritten .string "CODE"] ∧
      (loading.engine.loadConstants "c.json" limits.read).result = .ok 4 := by
  have loaded : (informed.loadConstants "c.json" limits.read).result = .ok 4 := by
    rw [loadConstants, ofFile_limits]
    rfl
  obtain ⟨file, told, integers, strings, others, warnings, -, again, -⟩ :=
    loading_overlays_file loaded
  obtain rfl := Except.ok.inj (ofFile_limits.symm.trans told)
  exact ⟨loaded, integers "FLAG" 1 rfl, strings "CODE" "ab" rfl rfl rfl,
    others "OLD" rfl (.inr (by decide)), others "REST" rfl (.inl rfl), warnings, again⟩

end Engine

end FieldRules
