/-
  FieldRules/Proofs/Result.lean
  =============================
  **Results that go on, and results side by side.**

  Reading and building go on from one result to the next, or over a list item by
  item, and end with the first error.  What that means for a whole is told here
  once, by its parts: an equivalence for success, and one for each error.
-/
import Mathlib.Data.List.Forall2

namespace FieldRules

/-! ### Lists side by side -/

theorem exists_right_of_forall₂ {α β : Type} {relation : α → β → Prop} {items : List α}
    {others : List β} (related : List.Forall₂ relation items others) {item : α}
    (member : item ∈ items) : ∃ other ∈ others, relation item other := by
  induction related with
  | nil => cases member
  | cons head _ ih =>
    rcases List.mem_cons.mp member with rfl | later
    · exact ⟨_, List.mem_cons_self, head⟩
    · obtain ⟨other, isMember, holds⟩ := ih later
      exact ⟨other, .tail _ isMember, holds⟩

theorem exists_left_of_forall₂ {α β : Type} {relation : α → β → Prop} {items : List α}
    {others : List β} (related : List.Forall₂ relation items others) {other : β}
    (member : other ∈ others) : ∃ item ∈ items, relation item other :=
  exists_right_of_forall₂ (List.Forall₂.flip related) member

theorem exists_forall₂_iff {α β : Type} {relation : α → β → Prop} {items : List α} :
    (∃ others, List.Forall₂ relation items others) ↔
      ∀ item ∈ items, ∃ other, relation item other := by
  induction items with
  | nil => simp
  | cons item rest ih =>
    rw [List.forall_mem_cons, ← ih]
    simp only [List.forall₂_cons_left_iff]
    constructor
    · rintro ⟨-, other, others, head, tail, rfl⟩
      exact ⟨⟨other, head⟩, others, tail⟩
    · rintro ⟨⟨other, head⟩, others, tail⟩
      exact ⟨_, other, others, head, tail, rfl⟩

/-! ### Results that go on -/

variable {ε α β : Type} {result : Except ε α} {value : β}

instance decidableExistsOk (result : Except ε α) : Decidable (∃ value, result = .ok value) :=
  match result with
  | .ok value => isTrue ⟨value, rfl⟩
  | .error _ => isFalse (by simp)

instance decidableExistsError {p : ε → Prop} [DecidablePred p] (result : Except ε α) :
    Decidable (∃ fault, result = .error fault ∧ p fault) :=
  match result with
  | .ok _ => isFalse (by simp)
  | .error fault => decidable_of_iff (p fault) (by simp)

theorem exists_error_iff : (∃ fault, result = .error fault) ↔ ¬ ∃ value, result = .ok value := by
  cases result <;> simp

theorem exists_ok_congr {γ : Type} {result' : Except ε γ}
    (alike : ∀ fault, result = .error fault ↔ result' = .error fault) :
    (∃ value, result = .ok value) ↔ ∃ value, result' = .ok value := by
  rw [← not_iff_not, ← exists_error_iff, ← exists_error_iff]
  exact exists_congr alike

theorem eq_ok_of_toOption {inner : α} (shown : result.toOption = some inner) :
    result = .ok inner := by
  cases result with
  | error fault => cases shown
  | ok other => rw [Option.some.inj shown]

theorem exists_of_toOption_map {f : α → β} (shown : result.toOption.map f = some value) :
    ∃ inner, result = .ok inner ∧ f inner = value := by
  cases result with
  | error fault => cases shown
  | ok inner => exact ⟨inner, rfl, Option.some.inj shown⟩

theorem map_eq_ok_iff {f : α → β} :
    result.map f = .ok value ↔ ∃ inner, result = .ok inner ∧ f inner = value := by
  cases result <;> simp [Except.map]

theorem bind_eq_ok_iff {f : α → Except ε β} :
    (result >>= f) = .ok value ↔ ∃ inner, result = .ok inner ∧ f inner = .ok value := by
  cases result <;> simp [bind, Except.bind]

theorem bind_eq_error_iff {f : α → Except ε β} {fault : ε} :
    (result >>= f) = .error fault ↔
      result = .error fault ∨ ∃ inner, result = .ok inner ∧ f inner = .error fault := by
  cases result <;> simp [bind, Except.bind]

theorem map_eq_error_iff {f : α → β} {fault : ε} :
    result.map f = .error fault ↔ result = .error fault := by
  cases result <;> simp [Except.map]

/-- Two results that are seen alike are the same error, or values that are seen alike. -/
theorem map_eq_map_iff {γ δ : Type} {other : Except ε γ} {f : α → δ} {g : γ → δ} :
    result.map f = other.map g ↔
      (∃ fault, result = .error fault ∧ other = .error fault) ∨
        ∃ value value', result = .ok value ∧ other = .ok value' ∧ f value = g value' := by
  cases result <;> cases other <;> simp [Except.map, eq_comm]

/-! ### The first that fails -/

/-- Of several results in order, the first that is an error is that of an item. -/
def FirstFails (results : α → Except ε β) (items : List α) (item : α) (fault : ε) : Prop :=
  ∃ before after, items = before ++ item :: after ∧
    (∀ other ∈ before, ∃ value, results other = .ok value) ∧ results item = .error fault

theorem FirstFails.mem {results : α → Except ε β} {items : List α} {item : α} {fault : ε}
    (first : FirstFails results items item fault) : item ∈ items := by
  obtain ⟨before, after, rfl, -⟩ := first
  exact List.mem_append_right _ List.mem_cons_self

theorem FirstFails.fails {results : α → Except ε β} {items : List α} {item : α} {fault : ε}
    (first : FirstFails results items item fault) : results item = .error fault := by
  obtain ⟨before, after, -, -, fails⟩ := first
  exact fails

theorem not_firstFails_nil {results : α → Except ε β} {item : α} {fault : ε} :
    ¬ FirstFails results [] item fault := by
  rintro ⟨before, after, split, -⟩
  exact absurd split (by simp)

theorem firstFails_cons_iff {results : α → Except ε β} {head item : α} {rest : List α} {fault : ε} :
    FirstFails results (head :: rest) item fault ↔
      (head = item ∧ results head = .error fault) ∨
        (∃ value, results head = .ok value) ∧ FirstFails results rest item fault := by
  constructor
  · rintro ⟨_ | ⟨first, before⟩, after, split, succeed, fails⟩
    · obtain ⟨rfl, -⟩ := List.cons.inj split
      exact .inl ⟨rfl, fails⟩
    · obtain ⟨rfl, rfl⟩ := List.cons.inj split
      rw [List.forall_mem_cons] at succeed
      exact .inr ⟨succeed.1, before, after, rfl, succeed.2, fails⟩
  · rintro (⟨rfl, fails⟩ | ⟨succeeds, before, after, rfl, succeed, fails⟩)
    · exact ⟨[], rest, rfl, List.forall_mem_nil _, fails⟩
    · exact ⟨head :: before, after, rfl, List.forall_mem_cons.mpr ⟨succeeds, succeed⟩, fails⟩

theorem exists_firstFails_iff {results : α → Except ε β} {items : List α} :
    (∃ item fault, FirstFails results items item fault) ↔
      ∃ item ∈ items, ∃ fault, results item = .error fault := by
  induction items with
  | nil => simp [not_firstFails_nil]
  | cons head rest ih =>
    simp only [firstFails_cons_iff, List.exists_mem_cons_iff, ← ih]
    constructor
    · rintro ⟨item, fault, ⟨-, fails⟩ | ⟨-, first⟩⟩
      · exact .inl ⟨fault, fails⟩
      · exact .inr ⟨item, fault, first⟩
    · intro fails
      cases result : results head with
      | error fault => exact ⟨head, fault, .inl ⟨rfl, rfl⟩⟩
      | ok value =>
        rcases fails with ⟨fault, never⟩ | ⟨item, fault, first⟩
        · cases result.symm.trans never
        · exact ⟨item, fault, .inr ⟨⟨value, rfl⟩, first⟩⟩

theorem mapM_eq_ok_iff {results : α → Except ε β} {items : List α} {values : List β} :
    items.mapM results = .ok values ↔
      List.Forall₂ (fun item value => results item = .ok value) items values := by
  induction items generalizing values with
  | nil => cases values <;> simp [pure, Except.pure]
  | cons head rest ih =>
    rw [List.mapM_cons, bind_eq_ok_iff, List.forall₂_cons_left_iff]
    simp only [bind_eq_ok_iff, ih, pure, Except.pure, Except.ok.injEq]
    constructor
    · rintro ⟨value, first, later, others, rfl⟩
      exact ⟨value, later, first, others, rfl⟩
    · rintro ⟨value, later, first, others, rfl⟩
      exact ⟨value, first, later, others, rfl⟩

theorem mapM_map_eq_ok {γ : Type} {results : α → Except ε β} {source : γ → α} {target : γ → β}
    (each : ∀ item, results (source item) = .ok (target item)) (items : List γ) :
    (items.map source).mapM results = .ok (items.map target) := by
  rw [mapM_eq_ok_iff, List.forall₂_map_left_iff, List.forall₂_map_right_iff, List.forall₂_same]
  intro item _
  exact each item

/-- **A run over items fails with the first that fails**, if what fails does not depend on
    what was done before. -/
theorem foldlM_eq_error_iff {γ : Type} {f : β → α → Except ε β} {results : α → Except ε γ}
    (alike : ∀ sofar item fault, f sofar item = .error fault ↔ results item = .error fault)
    {items : List α} {start : β} {fault : ε} :
    items.foldlM f start = .error fault ↔ ∃ item, FirstFails results items item fault := by
  have succeeds (sofar : β) (item : α) :
      (∃ next, f sofar item = .ok next) ↔ ∃ value, results item = .ok value :=
    exists_ok_congr (alike sofar item)
  induction items generalizing start with
  | nil => simp [not_firstFails_nil, pure, Except.pure]
  | cons head rest ih =>
    rw [List.foldlM_cons, bind_eq_error_iff, alike]
    simp only [ih, firstFails_cons_iff]
    constructor
    · rintro (fails | ⟨next, step, item, first⟩)
      · exact ⟨head, .inl ⟨rfl, fails⟩⟩
      · exact ⟨item, .inr ⟨(succeeds start head).mp ⟨next, step⟩, first⟩⟩
    · rintro ⟨item, ⟨rfl, fails⟩ | ⟨succeeded, first⟩⟩
      · exact .inl fails
      · obtain ⟨next, step⟩ := (succeeds start head).mpr succeeded
        exact .inr ⟨next, step, item, first⟩

/-- A run over items fails with what one of its steps fails with. -/
theorem exists_of_foldlM_eq_error {f : β → α → Except ε β} {items : List α} {start : β} {fault : ε}
    (fails : items.foldlM f start = .error fault) :
    ∃ item ∈ items, ∃ sofar, f sofar item = .error fault := by
  induction items generalizing start with
  | nil => cases fails
  | cons item rest ih =>
    rw [List.foldlM_cons] at fails
    rcases bind_eq_error_iff.mp fails with first | ⟨next, -, later⟩
    · exact ⟨item, List.mem_cons_self, start, first⟩
    · obtain ⟨other, member, sofar, step⟩ := ih later
      exact ⟨other, .tail _ member, sofar, step⟩

end FieldRules
