/-
  FieldRules/Proofs/Engine/Loading.lean
  =====================================
  **Loading a file of constants goes as far as the first impossible name.**

  A file is read as a whole before any of its constants is registered, so all
  that is wrong with the file itself leaves the engine as it was.  The names are
  looked at while the constants are registered, integers first: those before the
  first impossible name stay, and nothing behind it is registered
  (`loading_stops_at_first_impossible_name`).

  What the tables hold after some constants were registered is the last that was
  said of each name and kind (`holds_extend_iff_saysLast`).  A file says each thing
  once, so there it is told by the entries alone (`holds_extend_iff`).
-/
import FieldRules.Engine.Operations
import FieldRules.Proofs.Constants.Sound
import FieldRules.Proofs.Engine.Building

namespace FieldRules

/-! ### Entries -/

/-- The table that a constant belongs to. -/
def Constant.kind : Constant → Constants.Kind
  | integer _ => .integers
  | string _ => .strings

namespace Constants

/-- The table of the kind gives the name this constant. -/
def Holds (constants : Constants) (name : String) : Constant → Prop
  | .integer value => constants.integers.get? name = some value
  | .string value => constants.strings.get? name = some value

/-- Registers a constant under a name, whatever the name, and what is noted about it. -/
def put (constants : Constants) (entry : String × Constant) : Constants × List Notice :=
  match entry.2 with
  | .integer value => constants.setInteger entry.1 value
  | .string value => constants.setString entry.1 value

def extend (constants : Constants) (entries : List (String × Constant)) : Constants :=
  entries.foldl (fun sofar entry => (sofar.put entry).1) constants

/-- The constants of both tables, in the order in which they are registered from a file. -/
def entries (constants : Constants) : List (String × Constant) :=
  constants.integers.map (fun entry => (entry.1, .integer entry.2)) ++
    constants.strings.map fun entry => (entry.1, .string entry.2)

/-- The constants in front of the first impossible name, and that name. -/
structure FirstImpossible (constants : Constants) (before : List (String × Constant))
    (name : String) : Prop where
  split : ∃ constant after, constants.entries = before ++ (name, constant) :: after
  named : ∀ entry ∈ before, Name.isName entry.1.toList = true
  impossible : Name.isName name.toList = false

/-- No name is given two constants of one kind. -/
def SaysOnce (entries : List (String × Constant)) : Prop :=
  entries.Pairwise fun entry other => entry.1 = other.1 → entry.2.kind ≠ other.2.kind

/-- A name is given a constant, and no other one of the kind afterwards. -/
def SaysLast (entries : List (String × Constant)) (name : String) (constant : Constant) : Prop :=
  ∃ before after, entries = before ++ (name, constant) :: after ∧
    ∀ other, (name, other) ∈ after → constant.kind ≠ other.kind

variable {constants : Constants}

theorem saysOnce_entries (sound : constants.Sound) : SaysOnce constants.entries := by
  have integers := List.pairwise_map.mp sound.integersOnce
  have strings := List.pairwise_map.mp sound.stringsOnce
  refine List.pairwise_append.mpr ⟨?_, ?_, ?_⟩
  · refine List.pairwise_map.mpr (integers.imp ?_)
    intro entry other different same
    exact absurd same different
  · refine List.pairwise_map.mpr (strings.imp ?_)
    intro entry other different same
    exact absurd same different
  · intro entry isInteger other isString _
    obtain ⟨integer, -, rfl⟩ := List.mem_map.mp isInteger
    obtain ⟨string, -, rfl⟩ := List.mem_map.mp isString
    exact Kind.noConfusion

theorem fits_of_mem_entries (sound : constants.Sound) {name : String} {value : Nat}
    (member : (name, .integer value) ∈ constants.entries) : value < integerModulus := by
  rcases List.mem_append.mp member with isInteger | isString
  · obtain ⟨entry, isEntry, same⟩ := List.mem_map.mp isInteger
    cases same
    exact sound.fits entry isEntry
  · obtain ⟨entry, -, same⟩ := List.mem_map.mp isString
    cases same

/-- The entries in front of the first impossible name are those up to it. -/
theorem FirstImpossible.before_eq {before : List (String × Constant)} {name : String}
    (first : constants.FirstImpossible before name) :
    before = constants.entries.takeWhile fun entry => Name.isName entry.1.toList := by
  obtain ⟨constant, after, split⟩ := first.split
  rw [split, List.takeWhile_append_of_pos first.named,
    List.takeWhile_cons_of_neg (by simp [first.impossible]), List.append_nil]

/-! ### Registering entries -/

/-- A constant that is put under a name is there, in place of the one of its kind, and
    nothing else changes. -/
theorem holds_put_iff {entry : String × Constant} {name : String} {constant : Constant} :
    (constants.put entry).1.Holds name constant ↔
      (name, constant) = entry ∨
        constants.Holds name constant ∧ (name = entry.1 → constant.kind ≠ entry.2.kind) := by
  obtain ⟨known, set⟩ := entry
  by_cases same : name = known
  · subst same
    cases set <;> cases constant <;>
      simp [put, setInteger, setString, Holds, Constant.kind, Table.get?_insert_self, eq_comm]
  · cases set <;> cases constant <;>
      simp [put, setInteger, setString, Holds, Table.get?_insert_of_ne _ _ same, same]

theorem saysLast_cons_iff {entry : String × Constant} {rest : List (String × Constant)}
    {name : String} {constant : Constant} :
    SaysLast (entry :: rest) name constant ↔
      SaysLast rest name constant ∨
        (name, constant) = entry ∧ ∀ other, (name, other) ∈ rest → constant.kind ≠ other.kind := by
  constructor
  · rintro ⟨before, after, split, last⟩
    cases before with
    | nil =>
      obtain ⟨rfl, rfl⟩ := List.cons.inj split
      exact .inr ⟨rfl, last⟩
    | cons first before =>
      obtain ⟨rfl, rfl⟩ := List.cons.inj split
      exact .inl ⟨before, after, rfl, last⟩
  · rintro (⟨before, after, rfl, last⟩ | ⟨rfl, last⟩)
    · exact ⟨entry :: before, after, rfl, last⟩
    · exact ⟨[], rest, rfl, last⟩

/-- **What the tables hold after some constants were registered** is the last that was said of
    each name and kind, and what was there of other names or of the other kind. -/
theorem holds_extend_iff_saysLast {entries : List (String × Constant)} {name : String}
    {constant : Constant} :
    (constants.extend entries).Holds name constant ↔
      SaysLast entries name constant ∨
        constants.Holds name constant ∧
          ∀ other, (name, other) ∈ entries → constant.kind ≠ other.kind := by
  induction entries generalizing constants with
  | nil => simp [extend, SaysLast]
  | cons entry rest ih =>
    have later : (constants.extend (entry :: rest)).Holds name constant ↔
        ((constants.put entry).1.extend rest).Holds name constant := Iff.rfl
    rw [later, ih, holds_put_iff, saysLast_cons_iff]
    constructor
    · rintro (last | ⟨isEntry | ⟨held, otherKind⟩, noOther⟩)
      · exact .inl (.inl last)
      · exact .inl (.inr ⟨isEntry, noOther⟩)
      · refine .inr ⟨held, fun other member => ?_⟩
        rcases List.mem_cons.mp member with rfl | inRest
        · exact otherKind rfl
        · exact noOther other inRest
    · rintro ((last | ⟨isEntry, noOther⟩) | ⟨held, noOther⟩)
      · exact .inl last
      · exact .inr ⟨.inl isEntry, noOther⟩
      · refine .inr ⟨.inr ⟨held, ?_⟩, fun other inRest => noOther other (.tail _ inRest)⟩
        rintro rfl
        exact noOther entry.2 List.mem_cons_self

theorem saysLast_iff_mem {entries : List (String × Constant)} (once : SaysOnce entries)
    {name : String} {constant : Constant} :
    SaysLast entries name constant ↔ (name, constant) ∈ entries := by
  constructor
  · rintro ⟨before, after, rfl, -⟩
    exact List.mem_append_right _ List.mem_cons_self
  · intro member
    obtain ⟨before, after, rfl⟩ := List.append_of_mem member
    have apart := (List.pairwise_cons.mp (List.pairwise_append.mp once).2.1).1
    exact ⟨before, after, rfl, fun other inAfter => apart (name, other) inAfter rfl⟩

/-- Where no name is given two constants of a kind, all that was said is held. -/
theorem holds_extend_iff {entries : List (String × Constant)} (once : SaysOnce entries)
    {name : String} {constant : Constant} :
    (constants.extend entries).Holds name constant ↔
      (name, constant) ∈ entries ∨
        constants.Holds name constant ∧
          ∀ other, (name, other) ∈ entries → constant.kind ≠ other.kind := by
  rw [holds_extend_iff_saysLast, saysLast_iff_mem once]

theorem registerInteger_eq_ok_iff {name value : Value} {result : Constants × List Notice} :
    constants.registerInteger name value = .ok result ↔
      ∃ known number unsigned, name.asName "constant" = .ok known ∧ value = .integer number ∧
        unsigned? number = some unsigned ∧ constants.setInteger known unsigned = result := by
  unfold registerInteger
  cases name.asName "constant" with
  | error fault => simp
  | ok known =>
    cases value with
    | integer number => cases fits : unsigned? number <;> simp [fits]
    | _ => simp

theorem registerString_eq_ok_iff {name value : Value} {result : Constants × List Notice} :
    constants.registerString name value = .ok result ↔
      ∃ known content, name.asName "constant" = .ok known ∧ value.text? = some content ∧
        constants.setString known content = result := by
  unfold registerString
  cases name.asName "constant" with
  | error fault => simp
  | ok known => cases value.text? <;> simp

end Constants

namespace Engine

variable {engine : Engine} {entries rest : List (String × Constant)}

def withConstants (engine : Engine) (entries : List (String × Constant)) : Engine :=
  { engine with constants := engine.constants.extend entries }

theorem registerEach_cons {name : String} {constant : Constant}
    (named : Name.isName name.toList = true)
    (fits : ∀ value, constant = .integer value → value < integerModulus) :
    engine.registerEach ((name, constant) :: rest) =
      let later := (engine.withConstants [(name, constant)]).registerEach rest
      (later.1, (engine.constants.put (name, constant)).2 ++ later.2.1, later.2.2) := by
  have isName : (Value.text name).asName "constant" = .ok name :=
    Value.asName_eq_ok_iff.mpr ⟨rfl, named⟩
  cases constant with
  | integer value =>
    have put : engine.constants.registerInteger (.text name) (.integer value) =
        .ok (engine.constants.setInteger name value) :=
      Constants.registerInteger_eq_ok_iff.mpr
        ⟨name, value, value, isName, rfl, unsigned?_natCast (fits value rfl), rfl⟩
    have registered : engine.registerInteger (.text name) (.integer value) =
        .ok (engine.withConstants [(name, .integer value)],
          (engine.constants.put (name, .integer value)).2) := by
      rw [registerInteger, put]
      rfl
    rw [registerEach, registered]
  | string value =>
    have put : engine.constants.registerString (.text name) (.text value) =
        .ok (engine.constants.setString name value) :=
      Constants.registerString_eq_ok_iff.mpr ⟨name, value, isName, rfl, rfl⟩
    have registered : engine.registerString (.text name) (.text value) =
        .ok (engine.withConstants [(name, .string value)],
          (engine.constants.put (name, .string value)).2) := by
      rw [registerString, put]
      rfl
    rw [registerEach, registered]

/-- Constants with possible names are registered, one behind the other. -/
theorem registerEach_append (engine : Engine) (rest : List (String × Constant))
    (named : ∀ entry ∈ entries, Name.isName entry.1.toList = true)
    (fits : ∀ name value, (name, .integer value) ∈ entries → value < integerModulus) :
    ∃ notices, engine.registerEach (entries ++ rest) =
      let later := (engine.withConstants entries).registerEach rest
      (later.1, notices ++ later.2.1, later.2.2) := by
  induction entries generalizing engine with
  | nil => exact ⟨[], rfl⟩
  | cons entry more ih =>
    obtain ⟨name, constant⟩ := entry
    rw [List.forall_mem_cons] at named
    have fitsFirst : ∀ value, constant = .integer value → value < integerModulus := by
      rintro value rfl
      exact fits name value List.mem_cons_self
    have fitsLater : ∀ name value, (name, .integer value) ∈ more → value < integerModulus :=
      fun name value member => fits name value (.tail _ member)
    obtain ⟨notices, later⟩ := ih (engine.withConstants [(name, constant)]) named.2 fitsLater
    refine ⟨(engine.constants.put (name, constant)).2 ++ notices, ?_⟩
    rw [List.cons_append, registerEach_cons named.1 fitsFirst, later]
    simp only [List.append_assoc]
    rfl

theorem registerEach_of_not_isName {name : String} {constant : Constant}
    (named : Name.isName name.toList = false) :
    engine.registerEach ((name, constant) :: rest) =
      (engine, [], .error (.constant (.invalidName (.invalid name "constant")))) := by
  cases constant with
  | integer value =>
    simp [registerEach, registerInteger, Constants.registerInteger,
      Value.asName_text_of_not_isName named]
  | string value =>
    simp [registerEach, registerString, Constants.registerString,
      Value.asName_text_of_not_isName named]

/-! ### Loading a file -/

variable {path : String} {read : FilePath → FileContent} {error : Error}

theorem loadConstants_of_file_fault {fault : FileFault}
    (broken : Constants.ofFile path read = .error fault) :
    engine.loadConstants path read =
      { engine := engine, notices := [], result := .error (.file fault) } := by
  rw [loadConstants, broken]

/-- The constants of a file are registered as its entries, in order. -/
theorem loadConstants_of_constants (engine : Engine) {constants : Constants}
    (told : Constants.ofFile path read = .ok constants) :
    let registered := engine.registerEach constants.entries
    (engine.loadConstants path read).engine = registered.1 ∧
      ∀ error, (engine.loadConstants path read).result = .error error ↔
        registered.2.2 = .error error := by
  have each : constants.integers.map (fun entry => (entry.1, Constant.integer entry.2)) ++
      constants.strings.map (fun entry => (entry.1, Constant.string entry.2)) =
        constants.entries := rfl
  simp only [loadConstants, told, each]
  obtain ⟨last, notices, _ | _⟩ := engine.registerEach constants.entries <;> simp

/-- Registering the constants of a file can only fail at a name, and what was registered
    then are the entries before it. -/
theorem registerEach_eq_error {constants : Constants} (sound : constants.Sound)
    (failed : (engine.registerEach constants.entries).2.2 = .error error) :
    ∃ before name, constants.FirstImpossible before name ∧
      error = .constant (.invalidName (.invalid name "constant")) ∧
      (engine.registerEach constants.entries).1 = engine.withConstants before := by
  cases impossible : constants.entries.find? fun entry => !Name.isName entry.1.toList with
  | none =>
    have named : ∀ entry ∈ constants.entries, Name.isName entry.1.toList = true := by
      simpa using List.find?_eq_none.mp impossible
    obtain ⟨notices, all⟩ := registerEach_append engine [] named
      fun name value member => Constants.fits_of_mem_entries sound member
    rw [List.append_nil] at all
    rw [all] at failed
    cases failed
  | some entry =>
    obtain ⟨name, constant⟩ := entry
    obtain ⟨notNamed, before, after, split, named⟩ :=
      List.find?_eq_some_iff_append.mp impossible
    rw [Bool.not_eq_true'] at notNamed
    have named : ∀ entry ∈ before, Name.isName entry.1.toList = true := by simpa using named
    have fits : ∀ name value, (name, Constant.integer value) ∈ before → value < integerModulus :=
      fun name value member => Constants.fits_of_mem_entries sound
        (split ▸ List.mem_append_left _ member)
    obtain ⟨notices, all⟩ := registerEach_append engine ((name, constant) :: after) named fits
    rw [← split, registerEach_of_not_isName notNamed] at all
    rw [all] at failed ⊢
    cases failed
    exact ⟨before, name, ⟨⟨constant, after, split⟩, named, notNamed⟩, rfl, rfl⟩

/-- **Loading stops at the first impossible name.**  If the constants of a file cannot be
    loaded, then either the file is at fault, and the engine stays as it was, or a name in
    it is impossible.  Of the latter kind the first is told, with the integers looked at
    before the strings; the constants in front of it are registered, in place of those of
    the same name and kind, and nothing else changes. -/
theorem loading_stops_at_first_impossible_name
    (failed : (engine.loadConstants path read).result = .error error) :
    (∃ fault, Constants.ofFile path read = .error fault ∧ error = .file fault ∧
      (engine.loadConstants path read).engine = engine) ∨
    ∃ constants before name, Constants.ofFile path read = .ok constants ∧
      constants.FirstImpossible before name ∧
        error = .constant (.invalidName (.invalid name "constant")) ∧
        (engine.loadConstants path read).engine = engine.withConstants before ∧
        ∀ known value, (engine.loadConstants path read).engine.constants.Holds known value ↔
          (known, value) ∈ before ∨
            engine.constants.Holds known value ∧
              ∀ other, (known, other) ∈ before → value.kind ≠ other.kind := by
  cases told : Constants.ofFile path read with
  | error fault =>
    rw [loadConstants_of_file_fault told] at failed ⊢
    cases failed
    exact .inl ⟨fault, rfl, rfl, rfl⟩
  | ok constants =>
    have sound := Constants.sound_of_ofFile told
    obtain ⟨loaded, fails⟩ := loadConstants_of_constants engine told
    obtain ⟨before, name, first, reason, registered⟩ :=
      registerEach_eq_error sound ((fails error).mp failed)
    obtain ⟨constant, after, split⟩ := first.split
    have once : Constants.SaysOnce before :=
      (List.pairwise_append.mp (split ▸ Constants.saysOnce_entries sound)).1
    have reached : (engine.loadConstants path read).engine = engine.withConstants before :=
      loaded.trans registered
    refine .inr ⟨constants, before, name, rfl, first, reason, reached, fun known value => ?_⟩
    rw [reached]
    exact Constants.holds_extend_iff once

/-- A file in which the second name is impossible. -/
def halfNamed : Directory :=
  [(["c.json"],
    "\x7b\"LIMIT\": 3, \"bad name\": 4, \"CODE\": \"ab\"\x7d".toList.map Char.toNat)]

theorem ofText_c_json : FilePath.ofText "c.json" = { root := 0, parts := ["c.json"] } := by
  have parts : "c.json".splitOn "/" = ["c.json"] := by
    rw [String.splitOn, if_neg (by decide)]
    iterate 6 rw [String.splitOnAux, if_neg (by decide), if_neg (by decide)]
    rw [String.splitOnAux, if_pos (by decide)]
    decide +kernel
  rw [FilePath.ofText, parts]
  decide +kernel

theorem ofFile_halfNamed : Constants.ofFile "c.json" halfNamed.read =
    .ok { integers := [("LIMIT", 3), ("bad name", 4)], strings := [("CODE", "ab")] } := by
  apply eq_ok_of_toOption
  rw [Constants.ofFile, if_neg (by decide), ofText_c_json]
  decide +kernel

theorem registerEach_halfNamed (engine : Engine) :
    engine.registerEach
        [("LIMIT", .integer 3), ("bad name", .integer 4), ("CODE", .string "ab")] =
      (engine.withConstants [("LIMIT", .integer 3)],
        (engine.constants.put ("LIMIT", .integer 3)).2,
        .error (.constant (.invalidName (.invalid "bad name" "constant")))) := by
  rw [registerEach_cons (by decide) (by simp [integerModulus]),
    registerEach_of_not_isName (by decide)]
  simp

def withOld : Engine := { constants := { integers := [("OLD", 7)] } }

theorem holds_withOld_iff {known : String} {value : Constant} :
    withOld.constants.Holds known value ↔ (known, value) = ("OLD", .integer 7) := by
  have isPut : withOld.constants = (({} : Constants).put ("OLD", .integer 7)).1 := rfl
  rw [isPut, Constants.holds_put_iff]
  refine or_iff_left ?_
  rintro ⟨never, -⟩
  cases value <;> cases never

/-- The constant in front of the bad name is registered, and the one that was there stays. -/
theorem loading_stops_at_bad_name :
    (withOld.loadConstants "c.json" halfNamed.read).result =
        .error (.constant (.invalidName (.invalid "bad name" "constant"))) ∧
      (withOld.loadConstants "c.json" halfNamed.read).engine =
        withOld.withConstants [("LIMIT", .integer 3)] ∧
      ∀ known value,
        (withOld.loadConstants "c.json" halfNamed.read).engine.constants.Holds known value ↔
          (known, value) = ("LIMIT", .integer 3) ∨ (known, value) = ("OLD", .integer 7) := by
  have failed : (withOld.loadConstants "c.json" halfNamed.read).result =
      .error (.constant (.invalidName (.invalid "bad name" "constant"))) :=
    ((loadConstants_of_constants _ ofFile_halfNamed).2 _).mpr
      (congrArg (·.2.2) (registerEach_halfNamed _))
  rcases loading_stops_at_first_impossible_name failed with
    ⟨fault, told, -⟩ | ⟨constants, before, name, told, first, -, reached, holds⟩
  · rw [ofFile_halfNamed] at told
    cases told
  · obtain rfl := Except.ok.inj (ofFile_halfNamed.symm.trans told)
    obtain rfl : before = [("LIMIT", .integer 3)] := first.before_eq
    refine ⟨failed, reached, fun known value => ?_⟩
    rw [holds, holds_withOld_iff, List.mem_singleton]
    refine or_congr_right (and_iff_left_of_imp ?_)
    rintro ⟨rfl, rfl⟩ other member
    have same : "OLD" = "LIMIT" := congrArg Prod.fst (List.mem_singleton.mp member)
    exact absurd same (by decide)

/-- Loading is not all or nothing: of a file with an impossible name, what stands in front
    of it stays registered. -/
theorem not_all_or_nothing_of_bad_name :
    ¬ ∀ (engine : Engine) path read error,
      (engine.loadConstants path read).result = .error error →
        (engine.loadConstants path read).engine.constants = engine.constants := by
  intro unchanged
  obtain ⟨loaded, fails⟩ := loadConstants_of_constants withOld ofFile_halfNamed
  have kept := unchanged withOld "c.json" halfNamed.read _
    ((fails _).mpr (congrArg (·.2.2) (registerEach_halfNamed withOld)))
  rw [loaded] at kept
  have grown : withOld.constants.extend [("LIMIT", .integer 3)] = withOld.constants :=
    (congrArg (·.1.constants) (registerEach_halfNamed withOld)).symm.trans kept
  exact absurd grown (by decide)

end Engine
end FieldRules
