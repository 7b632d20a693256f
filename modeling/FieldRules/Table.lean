/-
  FieldRules/Table.lean
  =====================
  **Tables from names to entries, in the order in which names came first.**

  Setting a name that is known keeps its place and changes its entry, so a table
  shows both what holds now and in which order the names were introduced.
-/
namespace FieldRules

abbrev Table (α : Type) := List (String × α)

namespace Table

variable {α : Type}

def get? (table : Table α) (name : String) : Option α := table.lookup name

def has (table : Table α) (name : String) : Bool := (table.get? name).isSome

def insert (table : Table α) (name : String) (entry : α) : Table α :=
  match table with
  | [] => [(name, entry)]
  | (known, old) :: rest =>
    if name == known then (known, entry) :: rest else (known, old) :: Table.insert rest name entry

def erase (table : Table α) (name : String) : Table α := table.filter (·.1 != name)

def names (table : Table α) : List String := table.map (·.1)

/-- The names, in order of their characters. -/
def sortedNames (table : Table α) : List String :=
  table.names.mergeSort fun first second => decide (first ≤ second)

theorem get?_insert_self (table : Table α) (name : String) (entry : α) :
    (table.insert name entry).get? name = some entry := by
  induction table with
  | nil => simp [insert, get?]
  | cons head rest ih =>
    obtain ⟨known, old⟩ := head
    simp only [insert]
    split
    · rename_i same
      simp [get?, List.lookup_cons, same]
    · rename_i other
      simp only [Bool.not_eq_true] at other
      simpa [get?, List.lookup_cons, other] using ih

theorem get?_insert_of_ne (table : Table α) {name other : String} (entry : α)
    (different : other ≠ name) : (table.insert name entry).get? other = table.get? other := by
  induction table with
  | nil =>
    have : (other == name) = false := by simpa using different
    simp [insert, get?, List.lookup_cons, this]
  | cons head rest ih =>
    obtain ⟨known, old⟩ := head
    simp only [insert]
    split
    · rename_i same
      have : (other == known) = false := by
        rw [← eq_of_beq same]
        simpa using different
      simp [get?, List.lookup_cons, this]
    · by_cases h : other == known
      · simp [get?, List.lookup_cons, h]
      · simp only [Bool.not_eq_true] at h
        simpa [get?, List.lookup_cons, h] using ih

theorem get?_erase_self (table : Table α) (name : String) :
    (table.erase name).get? name = none := by
  induction table with
  | nil => rfl
  | cons head rest ih =>
    obtain ⟨known, old⟩ := head
    by_cases same : known = name
    · simpa [erase, same] using ih
    · have other : (name == known) = false := by simpa using Ne.symm same
      simpa [erase, get?, same, List.lookup_cons, other] using ih

/-- Taking the entry of a name away leaves all other names as they were. -/
theorem get?_erase_of_ne (table : Table α) {name other : String} (different : other ≠ name) :
    (table.erase name).get? other = table.get? other := by
  induction table with
  | nil => rfl
  | cons head rest ih =>
    obtain ⟨known, old⟩ := head
    by_cases same : known = name
    · have apart : (other == name) = false := by simpa using different
      simpa [erase, get?, same, List.lookup_cons, apart] using ih
    · by_cases found : other == known
      · simp [erase, get?, same, List.lookup_cons, found]
      · simp only [Bool.not_eq_true] at found
        simpa [erase, get?, same, List.lookup_cons, found] using ih

theorem mem_insert {table : Table α} {name : String} {entry : α} {item : String × α}
    (member : item ∈ table.insert name entry) : item = (name, entry) ∨ item ∈ table := by
  induction table with
  | nil => exact .inl (List.mem_singleton.mp member)
  | cons head rest ih =>
    obtain ⟨known, old⟩ := head
    simp only [insert] at member
    split at member
    · rename_i same
      rcases List.mem_cons.mp member with rfl | later
      · exact .inl (by rw [eq_of_beq same])
      · exact .inr (.tail _ later)
    · rcases List.mem_cons.mp member with rfl | later
      · exact .inr List.mem_cons_self
      · exact (ih later).imp_right (List.mem_cons_of_mem _)

theorem mem_of_get? {table : Table α} {name : String} {entry : α}
    (found : table.get? name = some entry) : (name, entry) ∈ table := by
  induction table with
  | nil => cases found
  | cons head rest ih =>
    obtain ⟨known, old⟩ := head
    by_cases same : name = known
    · subst same
      obtain rfl : old = entry := by simpa [get?] using found
      exact List.mem_cons_self
    · have other : (name == known) = false := by simp [same]
      exact .tail _ (ih (by simpa [get?, List.lookup_cons, other] using found))

theorem get?_eq_some_iff_mem {table : Table α} (once : table.names.Nodup) {name : String}
    {entry : α} : table.get? name = some entry ↔ (name, entry) ∈ table := by
  refine ⟨mem_of_get?, fun member => ?_⟩
  induction table with
  | nil => cases member
  | cons head rest ih =>
    obtain ⟨known, old⟩ := head
    have once : known ∉ names rest ∧ (names rest).Nodup := List.nodup_cons.mp once
    rcases List.mem_cons.mp member with first | later
    · obtain ⟨rfl, rfl⟩ := Prod.mk.inj first
      simp [get?]
    · have other : (name == known) = false := by
        refine beq_eq_false_iff_ne.mpr ?_
        rintro rfl
        exact once.1 (List.mem_map_of_mem later)
      simpa [get?, List.lookup_cons, other] using ih once.2 later

theorem has_iff_mem_names {table : Table α} {name : String} :
    table.has name = true ↔ name ∈ table.names := by
  induction table with
  | nil => simp [has, get?, names]
  | cons head rest ih =>
    obtain ⟨known, old⟩ := head
    by_cases same : name = known
    · simp [has, get?, names, same]
    · have other : (name == known) = false := by simp [same]
      simp only [has, get?, names] at ih
      simp [has, get?, names, List.lookup_cons, same, other, ih]

theorem mem_names_insert_iff {table : Table α} {name other : String} {entry : α} :
    other ∈ (table.insert name entry).names ↔ other = name ∨ other ∈ table.names := by
  rw [← has_iff_mem_names, ← has_iff_mem_names, has, has]
  by_cases same : other = name
  · simp [same, get?_insert_self]
  · simp [same, get?_insert_of_ne table entry same]

/-- **Each name stands in a table once**, however often it is given an entry. -/
theorem nodup_names_insert {table : Table α} (once : table.names.Nodup) (name : String)
    (entry : α) : (table.insert name entry).names.Nodup := by
  induction table with
  | nil => exact List.nodup_cons.mpr ⟨List.not_mem_nil, List.nodup_nil⟩
  | cons head rest ih =>
    obtain ⟨known, old⟩ := head
    have once : known ∉ names rest ∧ (names rest).Nodup := List.nodup_cons.mp once
    simp only [insert]
    split
    · exact List.nodup_cons.mpr once
    · rename_i other
      refine List.nodup_cons.mpr ⟨?_, ih once.2⟩
      intro again
      obtain ⟨⟨again, _⟩, member, isKnown⟩ := List.mem_map.mp again
      obtain rfl : again = known := isKnown
      rcases mem_insert member with same | earlier
      · obtain ⟨rfl, -⟩ := Prod.mk.inj same
        exact other (beq_self_eq_true _)
      · exact once.1 (List.mem_map_of_mem earlier)

end Table

end FieldRules
