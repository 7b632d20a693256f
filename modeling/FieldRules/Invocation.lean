/-
  FieldRules/Invocation.lean
  ==========================
  **Splitting rule text into invocations `name(arguments)`.**

  The arguments of an invocation run to the first closing parenthesis that
  stands outside of quotes; they are kept as text here and read elsewhere.
  Invocations may follow each other directly, with blanks, or with one comma
  between them; anything else in the text is a fault.

  A single left-to-right scan decides where an invocation ends, and no choice
  has to be taken back: outside of quotes the next character alone tells
  whether the body ends, a quote opens, or the character belongs to the body.
-/
import FieldRules.SyntaxFault
import FieldRules.Text.Character
import FieldRules.Name

namespace FieldRules

open FieldRules.Text

/-- One occurrence of `name(arguments)` in rule text: the arguments without
    outer blanks, and the offset of the name. -/
structure Invocation where
  name : String
  arguments : String
  offset : Nat := 0
deriving DecidableEq, Repr

namespace Invocation

def render (invocation : Invocation) : String :=
  invocation.name ++ "(" ++ invocation.arguments ++ ")"

/-! ### One invocation at the head of a text -/

/-- Where the scan of a body stands with respect to quotes. -/
inductive Place where
  | outside
  | inside
  | escaped
deriving DecidableEq, Repr

/-- Splits off the body of an invocation: the characters before the closing
    parenthesis, and those after it.  A backslash inside quotes takes the next
    character with it, which may not be a line feed. -/
def takeBody : Place → List Char → Option (List Char × List Char)
  | _, [] => none
  | .outside, c :: rest =>
    if c == ')' then some ([], rest)
    else (takeBody (if c == '\x27' then .inside else .outside) rest).map
      fun (body, after) => (c :: body, after)
  | .inside, c :: rest =>
    (takeBody (if c == '\x27' then .outside else if c == '\x5c' then .escaped else .inside) rest).map
      fun (body, after) => (c :: body, after)
  | .escaped, c :: rest =>
    if c == '\n' then none
    else (takeBody .inside rest).map fun (body, after) => (c :: body, after)

/-- An invocation found at the head of a text: the number of blanks before the
    name, the name, the body between the parentheses, and the text that follows
    the blanks after it. -/
structure Head where
  blanks : Nat
  name : List Char
  body : List Char
  rest : List Char
deriving DecidableEq, Repr

def head? (text : List Char) : Option Head :=
  match trimStart text with
  | [] => none
  | c :: rest =>
    if Name.isLetter c then
      let name := c :: rest.takeWhile Name.isNameChar
      match trimStart (rest.dropWhile Name.isNameChar) with
      | '(' :: inner =>
        (takeBody .outside inner).map fun (body, after) =>
          { blanks := text.length - (rest.length + 1), name := name, body := body
            rest := trimStart after }
      | _ => none
    else none

theorem length_trimStart_le (text : List Char) : (trimStart text).length ≤ text.length :=
  (List.dropWhile_sublist isBlank).length_le

theorem length_takeBody_lt {place : Place} {text body after : List Char}
    (h : takeBody place text = some (body, after)) : after.length < text.length := by
  induction text generalizing place body with
  | nil => simp [takeBody] at h
  | cons c rest ih =>
    have step {next : Place}
        (taken : (takeBody next rest).map (fun (b, a) => (c :: b, a)) = some (body, after)) :
        after.length < (c :: rest).length := by
      obtain ⟨⟨inner, tail⟩, found, same⟩ := Option.map_eq_some_iff.1 taken
      simp only [Prod.mk.injEq] at same
      have := ih (same.2 ▸ found)
      simp only [List.length_cons]
      omega
    cases place with
    | outside =>
      simp only [takeBody] at h
      split at h
      · simp only [Option.some.injEq, Prod.mk.injEq] at h
        simp [h.2]
      · exact step h
    | inside => exact step (by simpa only [takeBody] using h)
    | escaped =>
      simp only [takeBody] at h
      split at h
      · simp at h
      · exact step h

/-- What follows an invocation is at least three characters shorter than the
    text it was found in: a name and two parentheses are gone. -/
theorem length_rest_head?_lt {text : List Char} {head : Head} (h : head? text = some head) :
    head.rest.length + 3 ≤ text.length := by
  unfold head? at h
  split at h
  · simp at h
  · rename_i c rest trimmed
    have shorter := length_trimStart_le text
    rw [trimmed] at shorter
    split at h
    · split at h
      · rename_i inner opened
        obtain ⟨⟨body, after⟩, found, rfl⟩ := Option.map_eq_some_iff.1 h
        have bodyShorter := length_takeBody_lt found
        have nameShorter := length_trimStart_le (rest.dropWhile Name.isNameChar)
        have dropShorter := (List.dropWhile_sublist Name.isNameChar (l := rest)).length_le
        have tailShorter := length_trimStart_le after
        rw [opened] at nameShorter
        simp only [List.length_cons] at *
        omega
      · simp at h
    · simp at h

/-! ### All invocations of a text -/

/-- The invocations of a text of which the first blanks are gone and which
    begins at a position of the whole text. -/
def splitFrom (position : Nat) (text : List Char) :
    Except (SyntaxProblem × Nat) (List Invocation) :=
  if text.isEmpty then .ok []
  else
    match _found : head? text with
    | none => .error (.expectedInvocation, position)
    | some head =>
      let invocation : Invocation :=
        { name := String.ofList head.name, arguments := String.ofList (trim head.body)
          offset := position + head.blanks }
      let after := position + (text.length - head.rest.length)
      match next : head.rest with
      | ',' :: tail =>
        let following := trimStart tail
        let start := after + 1 + (tail.length - following.length)
        if following.isEmpty then .error (.trailingSeparator, start - 1)
        else (splitFrom start following).map (invocation :: ·)
      | _ => (splitFrom after head.rest).map (invocation :: ·)
termination_by text.length
decreasing_by
  · have := length_rest_head?_lt _found
    have := length_trimStart_le tail
    rw [next] at *
    simp only [List.length_cons] at *
    omega
  · have := length_rest_head?_lt _found
    omega

def split (text : String) : Except SyntaxFault (List Invocation) :=
  let chars := text.toList
  let start := trimStart chars
  match splitFrom (chars.length - start.length) start with
  | .ok invocations => .ok invocations
  | .error (problem, offset) => .error ⟨problem, text, offset⟩

end Invocation

end FieldRules
