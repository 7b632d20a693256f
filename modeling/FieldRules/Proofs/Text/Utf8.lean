/-
  FieldRules/Proofs/Text/Utf8.lean
  ================================
  **Bytes are decoded exactly if they encode a text.**

  Encoding is the library's, character by character.  Decoding looks at ranges
  of bytes, and `Sequence` says which ones it lets pass, with the code point that
  they stand for.  These are the encodings of characters and no others
  (`sequence_bytesOf`, `exists_char_of_sequence`): the ranges keep out overlong
  forms, surrogates, and what lies beyond the last code point.  The decoder cuts
  off one sequence after the other, so that the whole follows by induction
  (`decode_eq_ok_iff`).
-/
import FieldRules.Proofs.Result
import FieldRules.Text.Utf8
import Mathlib.Data.List.TakeWhile

namespace FieldRules.Text.Utf8

/-! ### Encoding -/

def bytesOf (c : Char) : List Nat := (String.utf8EncodeChar c).map UInt8.toNat

def encode (text : List Char) : List Nat := text.flatMap bytesOf

theorem bytesOf_eq (c : Char) :
    bytesOf c =
      if c.toNat ≤ 0x7f then [c.toNat]
      else if c.toNat ≤ 0x7ff then [c.toNat / 64 + 0xc0, c.toNat % 64 + 0x80]
      else if c.toNat ≤ 0xffff then
        [c.toNat / 4096 + 0xe0, c.toNat / 64 % 64 + 0x80, c.toNat % 64 + 0x80]
      else
        [c.toNat / 262144 + 0xf0, c.toNat / 4096 % 64 + 0x80, c.toNat / 64 % 64 + 0x80,
          c.toNat % 64 + 0x80] := by
  have inRange : c.toNat < 0x110000 := by
    rcases c.valid with low | high
    · exact Nat.lt_trans low (by decide)
    · exact high.2
  have code : c.val.toNat = c.toNat := rfl
  simp only [bytesOf, String.utf8EncodeChar, code]
  repeat' split
  all_goals
    simp only [List.map_cons, List.map_nil, UInt8.toNat_ofNat', List.cons.injEq, and_true]
    omega

/-! ### Sequences -/

/-- The bytes of one character as the decoder reads them, and their code point. -/
inductive Sequence : List Nat → Nat → Prop
  | one {a : Nat} (first : a < 0x80) : Sequence [a] a
  | two {a b : Nat} (first : 0xc2 ≤ a ∧ a < 0xe0) (second : maySecond a b = true) :
    Sequence [a, b] ((a - 0xc0) * 64 + (b - 0x80))
  | three {a b c : Nat} (first : 0xe0 ≤ a ∧ a < 0xf0) (second : maySecond a b = true)
      (third : isContinuation c = true) :
    Sequence [a, b, c] (((a - 0xe0) * 64 + (b - 0x80)) * 64 + (c - 0x80))
  | four {a b c d : Nat} (first : 0xf0 ≤ a ∧ a < 0xf5) (second : maySecond a b = true)
      (third : isContinuation c = true) (fourth : isContinuation d = true) :
    Sequence [a, b, c, d] ((((a - 0xf0) * 64 + (b - 0x80)) * 64 + (c - 0x80)) * 64 + (d - 0x80))

theorem Sequence.length_pos {bytes : List Nat} {point : Nat} (sequence : Sequence bytes point) :
    0 < bytes.length := by
  cases sequence <;> exact Nat.succ_pos _

theorem isContinuation_iff {byte : Nat} :
    isContinuation byte = true ↔ 0x80 ≤ byte ∧ byte < 0xc0 := by
  simp [isContinuation]

theorem maySecond_iff {first second : Nat} :
    maySecond first second = true ↔
      (0x80 ≤ second ∧ second < 0xc0) ∧ (first = 0xe0 → 0xa0 ≤ second) ∧
        (first = 0xed → second < 0xa0) ∧ (first = 0xf0 → 0x90 ≤ second) ∧
        (first = 0xf4 → second < 0x90) := by
  simp only [maySecond, Bool.and_eq_true, isContinuation_iff, beq_iff_eq]
  refine and_congr_right fun _ => ?_
  repeat' split
  all_goals
    simp only [decide_eq_true_eq, true_iff]
    omega

theorem sequence_bytesOf (c : Char) : Sequence (bytesOf c) c.toNat := by
  have valid : c.toNat < 0xd800 ∨ 0xdfff < c.toNat ∧ c.toNat < 0x110000 := c.valid
  rw [bytesOf_eq]
  by_cases one : c.toNat ≤ 0x7f
  · rw [if_pos one]
    exact .one (by omega)
  rw [if_neg one]
  by_cases two : c.toNat ≤ 0x7ff
  · rw [if_pos two]
    have point : c.toNat = (c.toNat / 64 + 0xc0 - 0xc0) * 64 + (c.toNat % 64 + 0x80 - 0x80) := by
      omega
    have sequence : Sequence [c.toNat / 64 + 0xc0, c.toNat % 64 + 0x80] _ :=
      .two (by omega) (maySecond_iff.mpr (by omega))
    rwa [← point] at sequence
  rw [if_neg two]
  by_cases three : c.toNat ≤ 0xffff
  · rw [if_pos three]
    have point : c.toNat = ((c.toNat / 4096 + 0xe0 - 0xe0) * 64 +
        (c.toNat / 64 % 64 + 0x80 - 0x80)) * 64 + (c.toNat % 64 + 0x80 - 0x80) := by
      omega
    have sequence : Sequence [c.toNat / 4096 + 0xe0, c.toNat / 64 % 64 + 0x80,
        c.toNat % 64 + 0x80] _ :=
      .three (by omega) (maySecond_iff.mpr (by omega)) (isContinuation_iff.mpr (by omega))
    rwa [← point] at sequence
  · rw [if_neg three]
    have point : c.toNat = (((c.toNat / 262144 + 0xf0 - 0xf0) * 64 +
        (c.toNat / 4096 % 64 + 0x80 - 0x80)) * 64 + (c.toNat / 64 % 64 + 0x80 - 0x80)) * 64 +
          (c.toNat % 64 + 0x80 - 0x80) := by
      omega
    have sequence : Sequence [c.toNat / 262144 + 0xf0, c.toNat / 4096 % 64 + 0x80,
        c.toNat / 64 % 64 + 0x80, c.toNat % 64 + 0x80] _ :=
      .four (by omega) (maySecond_iff.mpr (by omega)) (isContinuation_iff.mpr (by omega))
        (isContinuation_iff.mpr (by omega))
    rwa [← point] at sequence

theorem toNat_ofNat {point : Nat} (valid : point < 0xd800 ∨ 0xdfff < point ∧ point < 0x110000) :
    (Char.ofNat point).toNat = point := by
  rw [Char.ofNat, dif_pos valid]
  rfl

/-- **A sequence is what is written for the character of its code point.** -/
theorem bytesOf_of_sequence {bytes : List Nat} {point : Nat} (sequence : Sequence bytes point) :
    bytesOf (Char.ofNat point) = bytes := by
  cases sequence with
  | one first =>
    rw [bytesOf_eq, toNat_ofNat (by omega), if_pos (by omega)]
  | two first second =>
    obtain ⟨second, -⟩ := maySecond_iff.mp second
    rw [bytesOf_eq, toNat_ofNat (by omega), if_neg (by omega), if_pos (by omega)]
    simp only [List.cons.injEq, and_true]
    omega
  | three first second third =>
    have ranges := maySecond_iff.mp second
    have third := isContinuation_iff.mp third
    rw [bytesOf_eq, toNat_ofNat (by omega), if_neg (by omega), if_neg (by omega), if_pos (by omega)]
    simp only [List.cons.injEq, and_true]
    omega
  | four first second third fourth =>
    have ranges := maySecond_iff.mp second
    have third := isContinuation_iff.mp third
    have fourth := isContinuation_iff.mp fourth
    rw [bytesOf_eq, toNat_ofNat (by omega), if_neg (by omega), if_neg (by omega), if_neg (by omega)]
    simp only [List.cons.injEq, and_true]
    omega

/-! ### Decoding -/

theorem goodFollowers_append (first : Nat) (more following : List Nat) :
    goodFollowers first more.length (more ++ following) =
      goodFollowers first more.length more := by
  simp only [goodFollowers, List.take_left, List.take_length]

theorem goodFollowers_le_length (first wanted : Nat) (rest : List Nat) :
    goodFollowers first wanted rest ≤ rest.length := by
  refine Nat.le_trans ?_ (List.length_take_le' wanted rest)
  unfold goodFollowers
  dsimp only
  split
  · exact Nat.zero_le _
  · next second more taken =>
    rw [taken]
    split
    · rw [List.length_cons, Nat.add_comm]
      exact Nat.succ_le_succ (List.takeWhile_prefix isContinuation).length_le
    · exact Nat.zero_le _

theorem goodFollowers_cons_iff {first second : Nat} {more : List Nat} :
    goodFollowers first (second :: more).length (second :: more) = (second :: more).length ↔
      maySecond first second = true ∧ ∀ byte ∈ more, isContinuation byte = true := by
  have followers : goodFollowers first (second :: more).length (second :: more) =
      if maySecond first second = true then 1 + (more.takeWhile isContinuation).length else 0 := by
    rw [goodFollowers, List.take_length]
  rw [followers, List.length_cons, Nat.add_comm more.length]
  by_cases may : maySecond first second = true
  · rw [if_pos may, Nat.add_left_cancel_iff, ← List.takeWhile_eq_self_iff]
    constructor
    · intro whole
      exact ⟨may, (List.takeWhile_prefix isContinuation).eq_of_length whole⟩
    · rintro ⟨-, all⟩
      rw [all]
  · rw [if_neg may]
    constructor
    · intro none
      omega
    · rintro ⟨does, -⟩
      exact absurd does may

theorem lengthOf?_eq_some_iff {first length : Nat} :
    lengthOf? first = some length ↔
      first < 0x80 ∧ length = 1 ∨ (0xc2 ≤ first ∧ first < 0xe0) ∧ length = 2 ∨
        (0xe0 ≤ first ∧ first < 0xf0) ∧ length = 3 ∨
        (0xf0 ≤ first ∧ first < 0xf5) ∧ length = 4 := by
  unfold lengthOf?
  repeat' split
  all_goals
    simp only [Option.some.injEq, reduceCtorEq, false_iff]
    omega

def pointOf (first : Nat) (more : List Nat) : Nat :=
  more.foldl (fun bits byte => bits * 64 + (byte - 0x80)) (leadBits first)

theorem leadBits_of_two {first : Nat} (range : 0xc2 ≤ first ∧ first < 0xe0) :
    leadBits first = first - 0xc0 := by
  rw [leadBits, if_neg (by omega), if_pos range.2]

theorem leadBits_of_three {first : Nat} (range : 0xe0 ≤ first ∧ first < 0xf0) :
    leadBits first = first - 0xe0 := by
  rw [leadBits, if_neg (by omega), if_neg (by omega), if_pos range.2]

theorem leadBits_of_four {first : Nat} (range : 0xf0 ≤ first ∧ first < 0xf5) :
    leadBits first = first - 0xf0 := by
  rw [leadBits, if_neg (by omega), if_neg (by omega), if_neg (by omega)]

/-- **A sequence is what the decoder takes for one character**: the first byte
    tells how many follow, and these are good ones. -/
theorem sequence_iff {first : Nat} {more : List Nat} {point : Nat} :
    Sequence (first :: more) point ↔
      lengthOf? first = some (more.length + 1) ∧
        goodFollowers first more.length more = more.length ∧ point = pointOf first more := by
  constructor
  · intro sequence
    cases sequence with
    | one range =>
      refine ⟨lengthOf?_eq_some_iff.mpr (by simp [range]), rfl, ?_⟩
      simp only [pointOf, List.foldl_nil, leadBits, range, if_true]
    | two range second =>
      refine ⟨lengthOf?_eq_some_iff.mpr (by simp [range]),
        goodFollowers_cons_iff.mpr ⟨second, by simp⟩, ?_⟩
      rw [pointOf, leadBits_of_two range]
      rfl
    | three range second third =>
      refine ⟨lengthOf?_eq_some_iff.mpr (by simp [range]),
        goodFollowers_cons_iff.mpr ⟨second, by simpa using third⟩, ?_⟩
      rw [pointOf, leadBits_of_three range]
      rfl
    | four range second third fourth =>
      refine ⟨lengthOf?_eq_some_iff.mpr (by simp [range]),
        goodFollowers_cons_iff.mpr ⟨second, by simpa using ⟨third, fourth⟩⟩, ?_⟩
      rw [pointOf, leadBits_of_four range]
      rfl
  · rintro ⟨length, good, rfl⟩
    have ranges := lengthOf?_eq_some_iff.mp length
    rcases more with _ | ⟨second, _ | ⟨third, _ | ⟨fourth, _ | ⟨fifth, later⟩⟩⟩⟩
    · have range : first < 0x80 := by simpa using ranges
      have point : pointOf first [] = first := by simp [pointOf, leadBits, range]
      rw [point]
      exact .one range
    · have range : 0xc2 ≤ first ∧ first < 0xe0 := by simpa using ranges
      obtain ⟨may, -⟩ := goodFollowers_cons_iff.mp good
      rw [pointOf, leadBits_of_two range]
      exact .two range may
    · have range : 0xe0 ≤ first ∧ first < 0xf0 := by simpa using ranges
      obtain ⟨may, others⟩ := goodFollowers_cons_iff.mp good
      rw [pointOf, leadBits_of_three range]
      exact .three range may (others third (by simp))
    · have range : 0xf0 ≤ first ∧ first < 0xf5 := by simpa using ranges
      obtain ⟨may, others⟩ := goodFollowers_cons_iff.mp good
      rw [pointOf, leadBits_of_four range]
      exact .four range may (others third (by simp)) (others fourth (by simp))
    · simp only [List.length_cons] at ranges
      omega

theorem decodeFrom_sequence {bytes : List Nat} {point : Nat} (sequence : Sequence bytes point)
    (fuel position : Nat) (following : List Nat) :
    decodeFrom (fuel + 1) position (bytes ++ following) =
      (decodeFrom fuel (position + bytes.length) following).map (Char.ofNat point :: ·) := by
  cases bytes with
  | nil => cases sequence
  | cons first more =>
    obtain ⟨length, good, rfl⟩ := sequence_iff.mp sequence
    rw [← goodFollowers_append first more following] at good
    rw [List.cons_append, decodeFrom, length]
    simp only [Nat.add_sub_cancel, good, beq_self_eq_true, if_true, List.take_left, List.drop_left,
      List.length_cons]
    rfl

theorem exists_sequence_of_decodeFrom {fuel position first : Nat} {rest : List Nat}
    {text : List Char} (decoded : decodeFrom (fuel + 1) position (first :: rest) = .ok text) :
    ∃ bytes point following later, first :: rest = bytes ++ following ∧ Sequence bytes point ∧
      text = Char.ofNat point :: later ∧
      decodeFrom fuel (position + bytes.length) following = .ok later := by
  rw [decodeFrom] at decoded
  split at decoded
  · cases decoded
  · next length known =>
    dsimp only at decoded
    split at decoded
    · next all =>
      have good : goodFollowers first (length - 1) rest = length - 1 := by
        have := eq_of_beq all
        omega
      have exact := List.length_take_of_le (good ▸ goodFollowers_le_length first (length - 1) rest)
      rw [good] at all decoded
      obtain ⟨later, decodedLater, rfl⟩ := map_eq_ok_iff.mp decoded
      refine ⟨first :: rest.take (length - 1), _, rest.drop (length - 1), later, ?_,
        sequence_iff.mpr ⟨?_, ?_, rfl⟩, rfl, ?_⟩
      · rw [List.cons_append, List.take_append_drop]
      · rw [exact, known, eq_of_beq all]
      · rw [← goodFollowers_append _ _ (rest.drop (length - 1)), List.take_append_drop, exact, good]
      · rw [List.length_cons, exact, eq_of_beq all]
        exact decodedLater
    · split at decoded <;> cases decoded

theorem encode_cons (c : Char) (later : List Char) :
    encode (c :: later) = bytesOf c ++ encode later := rfl

theorem decodeFrom_nil (fuel position : Nat) : decodeFrom fuel position [] = .ok [] := by
  cases fuel <;> rfl

theorem decodeFrom_eq_ok_iff {fuel position : Nat} {bytes : List Nat} {text : List Char}
    (bound : bytes.length ≤ fuel) :
    decodeFrom fuel position bytes = .ok text ↔ bytes = encode text := by
  constructor
  · intro decoded
    induction fuel generalizing position bytes text with
    | zero =>
      obtain rfl := List.length_eq_zero_iff.mp (Nat.le_zero.mp bound)
      cases decoded
      rfl
    | succ fuel ih =>
      cases bytes with
      | nil =>
        cases decoded
        rfl
      | cons first rest =>
        obtain ⟨bytes, point, following, later, same, sequence, rfl, decodedLater⟩ :=
          exists_sequence_of_decodeFrom decoded
        have nonempty : 0 < bytes.length := sequence.length_pos
        have shorter : following.length ≤ fuel := by
          have lengths := congrArg List.length same
          rw [List.length_append] at lengths
          omega
        rw [same, encode_cons, bytesOf_of_sequence sequence, ← ih shorter decodedLater]
  · rintro rfl
    induction text generalizing fuel position with
    | nil => exact decodeFrom_nil fuel position
    | cons c later ih =>
      have sequence := sequence_bytesOf c
      have nonempty : 0 < (bytesOf c).length := sequence.length_pos
      rw [encode_cons, List.length_append] at bound
      obtain ⟨fuel, rfl⟩ := Nat.exists_eq_succ_of_ne_zero (show fuel ≠ 0 by omega)
      rw [encode_cons, decodeFrom_sequence sequence, ih (by omega), Char.ofNat_toNat]
      rfl

/-- **Bytes are decoded to a text exactly if they encode it.** -/
theorem decode_eq_ok_iff {bytes : List Nat} {text : List Char} :
    decode bytes = .ok text ↔ bytes = encode text :=
  decodeFrom_eq_ok_iff (Nat.le_refl _)

theorem encode_inj {text other : List Char} (same : encode text = encode other) :
    text = other := by
  have decoded : decode (encode text) = .ok other := decode_eq_ok_iff.mpr same
  exact Except.ok.inj ((decode_eq_ok_iff.mpr rfl).symm.trans decoded)

end FieldRules.Text.Utf8
