/-
  FieldRules/Proofs/CommandLine/Screen.lean
  =========================================
  **A message behind a title takes the lines that the title and the message take.**

  Text is laid out line by line (`screenLines`), without the characters that have
  no place on a screen and without blank lines.  What is shown of escaped text is
  laid out like that behind a title (`failure_eq`), and the first line begins with
  the title (`exists_screenLines_eq_cons`).
-/
import FieldRules.CommandLine.Run
import FieldRules.Proofs.CommandLine.Markup

namespace FieldRules.CommandLine

open FieldRules.Text

/-! ### Lines -/

def layLine (line : List Char) : String := String.ofList (fillTabs 0 (line.splitOn '\t'))

def screenLines (text : String) : List String :=
  (((text.toList.filter (!isMove ·)).splitOn '\n').map layLine).filter isVisible

theorem screenLines?_eq_map (markup : String) :
    screenLines? markup = (Markup.shown? markup).map screenLines := rfl

def dropMoves (text : String) : String := String.ofList (text.toList.filter (!isMove ·))

theorem screenLines_append_dropMoves (front text : String) :
    screenLines (front ++ dropMoves text) = screenLines (front ++ text) := by
  simp [screenLines, dropMoves, List.filter_append, List.filter_filter]

theorem head?_dropMoves {text : String} {c : Char} (begins : text.toList.head? = some c)
    (stays : isMove c = false) : (dropMoves text).toList.head? = some c := by
  obtain ⟨more, split⟩ := List.head?_eq_some_iff.mp begins
  simp [dropMoves, split, stays]

def isInline (c : Char) : Bool := c != '\n' && c != '\t' && !isMove c

theorem not_mem_of_all_isInline {text : List Char} (inline : text.all isInline = true) :
    '\n' ∉ text ∧ '\t' ∉ text ∧ text.filter (!isMove ·) = text := by
  rw [List.all_eq_true] at inline
  refine ⟨fun member => ?_, fun member => ?_, List.filter_eq_self.mpr fun c member => ?_⟩
  · exact absurd (inline _ member) (by decide)
  · exact absurd (inline _ member) (by decide)
  · have isInline := inline c member
    rw [CommandLine.isInline, Bool.and_eq_true] at isInline
    exact isInline.2

variable {front text : List Char} {c : Char}

theorem splitOn_append (free : c ∉ front) :
    ∃ first more, (front ++ text).splitOn c = (front ++ first) :: more := by
  obtain ⟨first, more, split⟩ := List.exists_cons_of_ne_nil (List.splitOn_ne_nil c text)
  refine ⟨first, more, ?_⟩
  induction front with
  | nil => exact split
  | cons d later ih =>
    rw [List.mem_cons, not_or] at free
    have differs : (d == c) = false := by simpa using Ne.symm free.1
    rw [List.splitOn_eq_splitOnP, List.cons_append, List.splitOnP_cons_eq_if_modifyHead, differs,
      ← List.splitOn_eq_splitOnP, ih free.2]
    rfl

theorem prefix_fillTabs (column : Nat) (parts : List (List Char)) :
    text <+: fillTabs column (text :: parts) := by
  cases parts with
  | nil => exact List.prefix_rfl
  | cons part later => exact ⟨_, (List.append_assoc _ _ _).symm⟩

theorem isVisible_of_begins {title line : String} (begins : title.toList <+: line.toList)
    (shows : isVisible title = true) : isVisible line = true := by
  obtain ⟨c, member, visible⟩ := List.any_eq_true.mp shows
  exact List.any_eq_true.mpr ⟨c, begins.subset member, visible⟩

/-- **The first line begins as the text does.** -/
theorem exists_screenLines_eq_cons {title : String} (inline : title.toList.all isInline = true)
    (shows : isVisible title = true) (text : String) :
    ∃ first more, screenLines (title ++ text) = first :: more ∧
      title.toList <+: first.toList := by
  obtain ⟨noBreak, noTab, keeps⟩ := not_mem_of_all_isInline inline
  obtain ⟨line, lines, split⟩ :=
    @splitOn_append title.toList (text.toList.filter (!isMove ·)) '\n' noBreak
  obtain ⟨part, parts, splitLine⟩ := @splitOn_append title.toList line '\t' noTab
  have begins : title.toList <+: (layLine (title.toList ++ line)).toList := by
    rw [layLine, String.toList_ofList, splitLine]
    exact (List.prefix_append _ part).trans (prefix_fillTabs 0 parts)
  rw [screenLines, String.toList_append, List.filter_append, keeps, split, List.map_cons,
    List.filter_cons_of_pos (isVisible_of_begins begins shows)]
  exact ⟨_, _, rfl, begins⟩

/-! ### Messages -/

theorem failure_eq {title shown : String} {error : Error}
    (bare : (title ++ ":").toList.all Markup.isBare = true)
    (stays : Markup.draw (title ++ ":").toList = (title ++ ":").toList)
    (configuration : error.isConfiguration = true)
    (isShown : Markup.shown? (Markup.escape error.message) = some shown) :
    failure title error = { code := 1, errors := screenLines (title ++ ":" ++ " " ++ shown) } := by
  rw [failure, if_pos configuration]
  dsimp only
  rw [screenLines?_eq_map, Markup.shown?_titled bare stays, isShown]
  rfl

end FieldRules.CommandLine
