/-
  FieldRules/Proofs/Text/Run.lean
  ===============================
  **Runs of characters of one class.**

  Names, numerals, blanks and separators are all written as *runs*: stretches
  of characters that pass one test.  A run ends where the next character fails
  the test, so a text can be cut into a run and a rest that stops it in one way
  only (`Run.append_inj`).  Every statement of the library that a text has just
  one reading comes down to this, and so does every step of a reader that takes
  the longest run it can (`takeWhile_append`, `dropWhile_append`).
-/
import FieldRules.Text.Character

namespace FieldRules.Text

variable {test : Char → Bool}

/-! ### Runs, and the texts that stop them -/

/-- A stretch of characters that all pass one test. -/
@[ext]
structure Run (test : Char → Bool) where
  chars : List Char
  all : ∀ c ∈ chars, test c = true

/-- The text is empty, or its first character fails the test: a run that stands
    before the text ends there. -/
def Stops (test : Char → Bool) : List Char → Prop
  | [] => True
  | c :: _ => test c = false

@[simp] theorem stops_nil : Stops test [] := trivial

@[simp] theorem stops_cons {c : Char} {rest : List Char} :
    Stops test (c :: rest) ↔ test c = false := Iff.rfl

/-- A text that stops one kind of run stops every kind that asks for more. -/
theorem Stops.mono {other : Char → Bool} {rest : List Char} (stops : Stops test rest)
    (more : ∀ c, other c = true → test c = true) : Stops other rest := by
  cases rest with
  | nil => exact stops_nil
  | cons c rest =>
    refine stops_cons.mpr (Bool.eq_false_iff.mpr fun passes => ?_)
    rw [stops_cons, Bool.eq_false_iff] at stops
    exact stops (more c passes)

namespace Run

def empty : Run test := ⟨[], fun _ member => absurd member List.not_mem_nil⟩

def cons (c : Char) (passes : test c = true) (run : Run test) : Run test :=
  ⟨c :: run.chars, fun d member => by
    rcases List.mem_cons.mp member with rfl | member
    · exact passes
    · exact run.all d member⟩

def append (first second : Run test) : Run test :=
  ⟨first.chars ++ second.chars, fun c member =>
    (List.mem_append.mp member).elim (first.all c) (second.all c)⟩

def leading (test : Char → Bool) (text : List Char) : Run test :=
  ⟨text.takeWhile test, List.all_eq_true.mp List.all_takeWhile⟩

@[simp] theorem chars_empty : (empty : Run test).chars = [] := rfl

@[simp] theorem chars_cons (c : Char) (passes : test c = true) (run : Run test) :
    (cons c passes run).chars = c :: run.chars := rfl

@[simp] theorem chars_append (first second : Run test) :
    (first.append second).chars = first.chars ++ second.chars := rfl

theorem leading_append_dropWhile (text : List Char) :
    (leading test text).chars ++ text.dropWhile test = text :=
  List.takeWhile_append_dropWhile

theorem stops_dropWhile (text : List Char) : Stops test (text.dropWhile test) := by
  induction text with
  | nil => exact stops_nil
  | cons c rest ih =>
    rw [List.dropWhile_cons]
    split
    · exact ih
    · next fails => exact stops_cons.mpr (by simpa using fails)

theorem dropWhile_append (run : Run test) {rest : List Char} (stops : Stops test rest) :
    (run.chars ++ rest).dropWhile test = rest := by
  rw [List.dropWhile_append_of_pos run.all]
  cases rest with
  | nil => rfl
  | cons c rest => simp [stops_cons.mp stops]

theorem takeWhile_append (run : Run test) {rest : List Char} (stops : Stops test rest) :
    (run.chars ++ rest).takeWhile test = run.chars := by
  rw [List.takeWhile_append_of_pos run.all]
  cases rest with
  | nil => simp
  | cons c rest => simp [stops_cons.mp stops]

/-- **A text is cut into a run and a rest that stops it in one way only.** -/
theorem append_inj {first second : Run test} {rest other : List Char}
    (same : first.chars ++ rest = second.chars ++ other)
    (stops : Stops test rest) (stopsOther : Stops test other) :
    first = second ∧ rest = other := by
  constructor
  · have taken := congrArg (List.takeWhile test) same
    rw [takeWhile_append first stops, takeWhile_append second stopsOther] at taken
    exact Run.ext taken
  · have dropped := congrArg (List.dropWhile test) same
    rwa [dropWhile_append first stops, dropWhile_append second stopsOther] at dropped

theorem eq_empty_or_eq_cons (run : Run test) :
    run = empty ∨ ∃ (c : Char) (passes : test c = true) (more : Run test),
      run = cons c passes more := by
  obtain ⟨chars, all⟩ := run
  cases chars with
  | nil => exact .inl rfl
  | cons c more =>
    exact .inr ⟨c, all c List.mem_cons_self, ⟨more, fun d member => all d (.tail c member)⟩, rfl⟩

theorem eq_cons_of_ne_nil {run : Run test} (nonempty : run.chars ≠ []) :
    ∃ (c : Char) (passes : test c = true) (more : Run test), run = cons c passes more :=
  run.eq_empty_or_eq_cons.resolve_left fun none => nonempty (none ▸ rfl)

end Run

/-! ### Blanks around a text -/

abbrev Blanks := Run isBlank

theorem isBlank_eq_false {c : Char} (low : 0x20 < c.toNat) (high : c.toNat < 0x7f) :
    isBlank c = false := by
  simp only [isBlank, Ranges.covers, Ranges.coversPoint, blankRanges, List.any_cons, List.any_nil,
    Bool.or_false, Bool.or_eq_false_iff, Bool.and_eq_false_iff, decide_eq_false_iff_not]
  omega

/-- Trimming takes away leading blanks and no more. -/
theorem trimStart_append (blanks : Blanks) {rest : List Char} (stops : Stops isBlank rest) :
    trimStart (blanks.chars ++ rest) = rest :=
  blanks.dropWhile_append stops

theorem exists_blanks_trimStart (text : List Char) :
    ∃ blanks : Blanks, text = blanks.chars ++ trimStart text :=
  ⟨Run.leading isBlank text, (Run.leading_append_dropWhile text).symm⟩

theorem stops_trimStart (text : List Char) : Stops isBlank (trimStart text) :=
  Run.stops_dropWhile text

theorem exists_blanks_trim (text : List Char) :
    ∃ before after : Blanks, text = before.chars ++ (trim text ++ after.chars) := by
  obtain ⟨before, start⟩ := exists_blanks_trimStart text
  let ending : Blanks := Run.leading isBlank (trimStart text).reverse
  let after : Blanks := ⟨ending.chars.reverse, fun c member =>
    ending.all c (List.mem_reverse.mp member)⟩
  refine ⟨before, after, ?_⟩
  calc text = before.chars ++ trimStart text := start
    _ = before.chars ++ (trimStart text).reverse.reverse := by rw [List.reverse_reverse]
    _ = before.chars ++ (ending.chars ++ (trimStart text).reverse.dropWhile isBlank).reverse := by
      rw [Run.leading_append_dropWhile]
    _ = before.chars ++ (trim text ++ after.chars) := by rw [List.reverse_append]; rfl

end FieldRules.Text
