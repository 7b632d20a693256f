/-
  FieldRules/Proofs/Invocation/Written.lean
  =========================================
  **Rule text, as it is written.**

  An invocation is a name, blanks, and a body between parentheses.  A body is
  made of pieces: quotations, in which everything may stand but a line feed
  after a backslash, and single characters other than a quote and a closing
  parenthesis.  The invocations of a text stand in a sequence, with blanks and
  at most one comma between two of them and blanks around the whole.

  `Sequence` does not say what its items are: the splitter reads sequences of
  invocations with any body, and rules with their arguments form sequences too.
-/
import FieldRules.Invocation
import FieldRules.Proofs.Text.Quotation
import FieldRules.Proofs.Text.Run

namespace FieldRules.Invocation

open FieldRules.Text

/-! ### Bodies -/

/-- A piece of a body: a character outside of quotations, or a quotation. -/
inductive Piece where
  | plain (c : Char) (free : c ≠ ')' ∧ c ≠ quoteMark)
  | quoted (content : List QuotedChar) (unbroken : ∀ unit ∈ content, unit ≠ .escaped '\n')

def Piece.text : Piece → List Char
  | .plain c _ => [c]
  | .quoted content _ => quotation content

def bodyText (body : List Piece) : List Char := body.flatMap Piece.text

@[simp] theorem bodyText_nil : bodyText [] = [] := rfl

@[simp] theorem bodyText_cons (piece : Piece) (body : List Piece) :
    bodyText (piece :: body) = piece.text ++ bodyText body := rfl

@[simp] theorem bodyText_append (first second : List Piece) :
    bodyText (first ++ second) = bodyText first ++ bodyText second :=
  List.flatMap_append

/-- **A body ends in one place only**, at the first closing parenthesis outside
    of quotations, and has one reading only. -/
theorem bodyText_inj {first second : List Piece} {rest other : List Char}
    (same : bodyText first ++ ')' :: rest = bodyText second ++ ')' :: other) :
    first = second ∧ rest = other := by
  induction first generalizing second with
  | nil =>
    cases second with
    | nil => exact ⟨rfl, (List.cons.inj same).2⟩
    | cons piece later =>
      cases piece with
      | plain c free => exact absurd (List.cons.inj same).1.symm free.1
      | quoted content unbroken => exact absurd (List.cons.inj same).1 (by decide)
  | cons piece later ih =>
    cases second with
    | nil =>
      cases piece with
      | plain c free => exact absurd (List.cons.inj same).1 free.1
      | quoted content unbroken => exact absurd (List.cons.inj same).1 (by decide)
    | cons piece' later' =>
      cases piece with
      | plain c free =>
        cases piece' with
        | plain d free' =>
          obtain ⟨rfl, sameLater⟩ := List.cons.inj same
          obtain ⟨rfl, sameRest⟩ := ih sameLater
          exact ⟨rfl, sameRest⟩
        | quoted content unbroken => exact absurd (List.cons.inj same).1 free.2
      | quoted content unbroken =>
        cases piece' with
        | plain d free => exact absurd (List.cons.inj same).1.symm free.2
        | quoted content' unbroken' =>
          simp only [bodyText_cons, Piece.text, quotation, List.cons_append, List.append_assoc,
            List.cons.injEq, true_and] at same
          obtain ⟨rfl, sameLater⟩ := quotedText_inj same
          obtain ⟨rfl, sameRest⟩ := ih sameLater
          exact ⟨rfl, sameRest⟩

/-! ### Invocations -/

/-- An invocation in its parts, as it is written. -/
@[ext]
structure Written where
  name : List Char
  isName : Name.isName name = true
  gap : Blanks
  body : List Piece

namespace Written

def text (written : Written) : List Char :=
  written.name ++ (written.gap.chars ++ '(' :: (bodyText written.body ++ [')']))

/-- The invocation that stands at an offset: its arguments are its body without
    the outer blanks. -/
def located (written : Written) (offset : Nat) : Invocation :=
  { name := String.ofList written.name, arguments := String.ofList (trim (bodyText written.body))
    offset := offset }

end Written

/-! ### Sequences -/

/-- What stands between two items of a sequence: blanks, and at most one comma. -/
structure Link where
  before : Blanks
  comma : Bool
  after : Blanks

def Link.text (link : Link) : List Char :=
  link.before.chars ++ ((if link.comma then [','] else []) ++ link.after.chars)

@[simp] theorem Link.text_blank (before after : Blanks) :
    Link.text ⟨before, false, after⟩ = before.chars ++ after.chars := rfl

@[simp] theorem Link.text_comma (before after : Blanks) :
    Link.text ⟨before, true, after⟩ = before.chars ++ ',' :: after.chars := rfl

/-- Some items with a link before each, as they follow an item. -/
abbrev Followers (α : Type) := List (Link × α)

/-- Items with links between them and blanks around the whole. -/
structure Sequence (α : Type) where
  before : Blanks
  first : α
  others : Followers α
  after : Blanks

section Sequences

variable {α : Type} (itemText : α → List Char)

def followersText (others : Followers α) : List Char :=
  others.flatMap fun follower => follower.1.text ++ itemText follower.2

/-- Some followers with their offsets, where the first link stands at a position. -/
def placesFrom (position : Nat) : Followers α → List (Nat × α)
  | [] => []
  | (link, item) :: later =>
    let offset := position + link.text.length
    (offset, item) :: placesFrom (offset + (itemText item).length) later

def Sequence.text (sequence : Sequence α) : List Char :=
  sequence.before.chars ++ (itemText sequence.first ++
    (followersText itemText sequence.others ++ sequence.after.chars))

def Sequence.places (sequence : Sequence α) : List (Nat × α) :=
  let offset := sequence.before.chars.length
  (offset, sequence.first) ::
    placesFrom itemText (offset + (itemText sequence.first).length) sequence.others

@[simp] theorem followersText_nil : followersText itemText [] = [] := rfl

@[simp] theorem followersText_cons (link : Link) (item : α) (later : Followers α) :
    followersText itemText ((link, item) :: later) =
      link.text ++ (itemText item ++ followersText itemText later) := by
  simp [followersText]

theorem exists_append_of_mem_placesFrom {others : Followers α} {offset : Nat} {item : α}
    (start : List Char) (member : (offset, item) ∈ placesFrom itemText start.length others) :
    ∃ before after : List Char,
      start ++ followersText itemText others = before ++ (itemText item ++ after) ∧
        before.length = offset := by
  induction others generalizing start with
  | nil => cases member
  | cons follower later ih =>
    obtain ⟨link, next⟩ := follower
    rw [placesFrom, List.mem_cons, Prod.mk.injEq] at member
    rcases member with ⟨rfl, rfl⟩ | member
    · exact ⟨start ++ link.text, followersText itemText later, by simp, by simp⟩
    · obtain ⟨before, after, same, length⟩ :=
        ih (start ++ (link.text ++ itemText next)) (by simpa [Nat.add_assoc] using member)
      exact ⟨before, after, by simpa using same, length⟩

/-- **Every item of a sequence is written at its offset.** -/
theorem Sequence.exists_append_of_mem_places {sequence : Sequence α} {offset : Nat} {item : α}
    (member : (offset, item) ∈ sequence.places itemText) :
    ∃ before after : List Char,
      sequence.text itemText = before ++ (itemText item ++ after) ∧ before.length = offset := by
  rw [places, List.mem_cons, Prod.mk.injEq] at member
  rcases member with ⟨rfl, rfl⟩ | member
  · exact ⟨sequence.before.chars, _, rfl, rfl⟩
  · obtain ⟨before, after, same, length⟩ := exists_append_of_mem_placesFrom itemText
      (sequence.before.chars ++ itemText sequence.first) (by simpa using member)
    refine ⟨before, after ++ sequence.after.chars, ?_, length⟩
    rw [Sequence.text, ← List.append_assoc, ← List.append_assoc, same]
    simp

theorem Sequence.prefix_drop_of_mem_places (sequence : Sequence α) {offset : Nat} {item : α}
    (member : (offset, item) ∈ sequence.places itemText) :
    itemText item <+: (sequence.text itemText).drop offset := by
  obtain ⟨before, after, same, rfl⟩ := exists_append_of_mem_places itemText member
  rw [same, List.drop_left]
  exact List.prefix_append _ after

end Sequences

section Mapped

variable {α β : Type} (change : α → β) {itemText : α → List Char} {itemText' : β → List Char}
  (same : ∀ item, itemText' (change item) = itemText item)

def Followers.map (others : Followers α) : Followers β :=
  List.map (fun follower => (follower.1, change follower.2)) others

def Sequence.map (sequence : Sequence α) : Sequence β :=
  ⟨sequence.before, change sequence.first, sequence.others.map change, sequence.after⟩

include same in
theorem followersText_map (others : Followers α) :
    followersText itemText' (others.map change) = followersText itemText others := by
  simp [followersText, Followers.map, List.flatMap_map, same]

include same in
theorem placesFrom_map (position : Nat) (others : Followers α) :
    placesFrom itemText' position (others.map change) =
      (placesFrom itemText position others).map fun place => (place.1, change place.2) := by
  induction others generalizing position with
  | nil => rfl
  | cons follower later ih =>
    simp only [Followers.map, List.map_cons, placesFrom, same] at ih ⊢
    rw [ih]

include same in
/-- **Where the items are written as before, so is the sequence.** -/
theorem Sequence.text_map (sequence : Sequence α) :
    (sequence.map change).text itemText' = sequence.text itemText := by
  simp only [Sequence.text, Sequence.map, same, followersText_map change same]

include same in
theorem Sequence.places_map (sequence : Sequence α) :
    (sequence.map change).places itemText' =
      (sequence.places itemText).map fun place => (place.1, change place.2) := by
  simp only [Sequence.places, Sequence.map, same, placesFrom_map change same, List.map_cons]

end Mapped

/-! ### The items of a sequence -/

section Items

variable {α β : Type} {change : α → β}

def Followers.items (others : Followers α) : List α := List.map Prod.snd others

def Sequence.items (sequence : Sequence α) : List α := sequence.first :: sequence.others.items

@[simp] theorem Followers.items_cons (link : Link) (item : α) (later : Followers α) :
    Followers.items ((link, item) :: later) = item :: Followers.items later := rfl

theorem map_snd_placesFrom (itemText : α → List Char) (position : Nat) (others : Followers α) :
    (placesFrom itemText position others).map Prod.snd = others.items := by
  induction others generalizing position with
  | nil => rfl
  | cons follower later ih =>
    obtain ⟨link, item⟩ := follower
    rw [placesFrom, List.map_cons, Followers.items_cons, ih]

theorem Sequence.map_snd_places (itemText : α → List Char) (sequence : Sequence α) :
    (sequence.places itemText).map Prod.snd = sequence.items := by
  rw [places, List.map_cons, map_snd_placesFrom, items]

theorem Sequence.items_map (change : α → β) (sequence : Sequence α) :
    (sequence.map change).items = sequence.items.map change := by
  simp [items, Followers.items, Sequence.map, Followers.map]

theorem Followers.exists_map_eq {others : Followers β}
    (each : ∀ item ∈ others.items, ∃ source, change source = item) :
    ∃ sources : Followers α, sources.map change = others := by
  induction others with
  | nil => exact ⟨[], rfl⟩
  | cons follower later ih =>
    obtain ⟨link, item⟩ := follower
    rw [items_cons, List.forall_mem_cons] at each
    obtain ⟨⟨source, rfl⟩, others⟩ := each
    obtain ⟨sources, rfl⟩ := ih others
    exact ⟨(link, source) :: sources, rfl⟩

/-- **A sequence comes from another** where each of its items comes from something. -/
theorem Sequence.exists_map_eq {sequence : Sequence β}
    (each : ∀ item ∈ sequence.items, ∃ source, change source = item) :
    ∃ source : Sequence α, source.map change = sequence := by
  obtain ⟨before, first, others, after⟩ := sequence
  rw [items, List.forall_mem_cons] at each
  obtain ⟨⟨first, rfl⟩, later⟩ := each
  obtain ⟨others, rfl⟩ := Followers.exists_map_eq later
  exact ⟨⟨before, first, others, after⟩, rfl⟩

end Items

def Sequence.invocations (sequence : Sequence Written) : List Invocation :=
  (sequence.places Written.text).map fun place => place.2.located place.1

end FieldRules.Invocation
