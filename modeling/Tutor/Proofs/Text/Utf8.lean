import Mathlib.Tactic.SplitIfs
import Tutor.Text.Utf8

/-!
Reading back what was written as UTF-8.

A character's bytes take the reader from `fresh` to `fresh` and give exactly that character, so a
text is read back whatever stands behind it (`read_encode_append`). Only a line feed is written
with the byte of a line feed, which lets lines be cut on bytes or on characters alike.
-/

namespace Tutor.Utf8

/-! ## One byte -/

/-- No character is a surrogate. -/
theorem toNat_scalar (c : Char) : c.toNat < 0xD800 ∨ 0xDFFF < c.toNat ∧ c.toNat < 0x110000 :=
  c.valid

theorem toNat_ofNat_of_lt {n : Nat} (small : n < 0x100) : (UInt8.ofNat n).toNat = n :=
  Nat.mod_eq_of_lt small

/-- The first byte of three; the second byte is bounded where the form would be overlong or the
character a surrogate. -/
theorem lead_three {byte : Nat} (low : 0xE0 ≤ byte) (high : byte ≤ 0xEF) :
    lead byte = ([], .within (byte - 0xE0) 1 (if byte = 0xE0 then 0xA0 else 0x80)
      (if byte = 0xED then 0x9F else 0xBF)) := by
  unfold lead
  rw [if_neg (by omega), if_neg (by omega)]
  split_ifs <;> first | omega | simp_all

/-- The first byte of four; the second byte is bounded where the form would be overlong or the
character beyond U+10FFFF. -/
theorem lead_four {byte : Nat} (low : 0xF0 ≤ byte) (high : byte ≤ 0xF4) :
    lead byte = ([], .within (byte - 0xF0) 2 (if byte = 0xF0 then 0x90 else 0x80)
      (if byte = 0xF4 then 0x8F else 0xBF)) := by
  unfold lead
  rw [if_neg (by omega), if_neg (by omega), if_neg (by omega), if_neg (by omega),
    if_neg (by omega)]
  split_ifs <;> first | omega | simp_all

/-- A byte within its bounds completes a character. -/
theorem step_last {value low high n : Nat} (small : n < 0x100) (least : low ≤ n)
    (most : n ≤ high) :
    step (.within value 0 low high) (.ofNat n) =
      ([some (Char.ofNat (0x40 * value + (n - 0x80)))], .fresh) := by
  simp only [step, toNat_ofNat_of_lt small, least, most, and_self, if_true]

/-- A byte within its bounds, with more to come. -/
theorem step_more {value more low high n : Nat} (small : n < 0x100) (least : low ≤ n)
    (most : n ≤ high) :
    step (.within value (more + 1) low high) (.ofNat n) =
      ([], .within (0x40 * value + (n - 0x80)) more 0x80 0xBF) := by
  simp only [step, toNat_ofNat_of_lt small, least, most, and_self, if_true]

theorem step_fresh {n : Nat} (small : n < 0x100) : step .fresh (.ofNat n) = lead n := by
  simp only [step, toNat_ofNat_of_lt small]

/-! ## One character -/

/-- The bytes of a character give that character and leave the reader between two. -/
theorem readFrom_encodeChar (before : List (Option Char)) (c : Char) (bytes : List UInt8) :
    readFrom before .fresh (encodeChar c ++ bytes) = readFrom (some c :: before) .fresh bytes := by
  have scalar := toNat_scalar c
  have restored {n : Nat} (same : n = c.toNat) : Char.ofNat n = c := by
    rw [same, Char.ofNat_toNat]
  simp only [encodeChar]
  split_ifs with one two three
  · simp only [List.cons_append, List.nil_append, readFrom]
    rw [step_fresh (by omega), lead, if_pos one, restored rfl]
    rfl
  · simp only [List.cons_append, List.nil_append, readFrom]
    rw [step_fresh (by omega), lead, if_neg (by omega), if_pos (by omega),
      step_last (by omega) (by omega) (by omega), restored (by omega)]
    rfl
  · simp only [List.cons_append, List.nil_append, readFrom]
    rw [step_fresh (by omega), lead_three (by omega) (by omega),
      step_more (by omega) (by split_ifs <;> omega) (by split_ifs <;> omega),
      step_last (by omega) (by omega) (by omega), restored (by omega)]
    rfl
  · simp only [List.cons_append, List.nil_append, readFrom]
    rw [step_fresh (by omega), lead_four (by omega) (by omega),
      step_more (by omega) (by split_ifs <;> omega) (by split_ifs <;> omega),
      step_more (by omega) (by omega) (by omega),
      step_last (by omega) (by omega) (by omega), restored (by omega)]
    rfl

/-- The byte of a line feed stands in no other character. -/
theorem feed_mem_encodeChar {c : Char} : 10 ∈ encodeChar c ↔ c = '\n' := by
  have scalar := toNat_scalar c
  have feed {n : Nat} (small : n < 0x100) : (10 : UInt8) = .ofNat n ↔ 10 = n := by
    rw [← UInt8.toNat_inj, toNat_ofNat_of_lt small]
    rfl
  have same : c = '\n' ↔ 10 = c.toNat := by
    rw [← Char.toNat_inj, eq_comm]
    rfl
  simp only [encodeChar]
  split_ifs with one two three <;>
    simp only [List.mem_cons, List.not_mem_nil, or_false, same]
  · rw [feed (by omega)]
  · rw [feed (by omega), feed (by omega)]
    omega
  · rw [feed (by omega), feed (by omega), feed (by omega)]
    omega
  · rw [feed (by omega), feed (by omega), feed (by omega), feed (by omega)]
    omega

theorem encodeChar_feed : encodeChar '\n' = [10] := rfl

/-- The byte of a control character stands in no other character. -/
theorem visible_of_mem_encodeChar {c : Char} {byte : UInt8} (visible : 0x20 ≤ c.toNat)
    (member : byte ∈ encodeChar c) : 0x20 ≤ byte.toNat := by
  have scalar := toNat_scalar c
  have atLeast {n : Nat} (small : n < 0x100) (least : 0x20 ≤ n) :
      0x20 ≤ (UInt8.ofNat n).toNat := by
    rwa [toNat_ofNat_of_lt small]
  simp only [encodeChar] at member
  split_ifs at member with one two three <;>
    simp only [List.mem_cons, List.not_mem_nil, or_false] at member
  · rw [member]
    exact atLeast (by omega) visible
  · rcases member with rfl | rfl
    · exact atLeast (by omega) (by omega)
    · exact atLeast (by omega) (by omega)
  · rcases member with rfl | rfl | rfl
    · exact atLeast (by omega) (by omega)
    · exact atLeast (by omega) (by omega)
    · exact atLeast (by omega) (by omega)
  · rcases member with rfl | rfl | rfl | rfl
    · exact atLeast (by omega) (by omega)
    · exact atLeast (by omega) (by omega)
    · exact atLeast (by omega) (by omega)
    · exact atLeast (by omega) (by omega)

/-! ## Texts -/

@[simp] theorem encode_nil : encode [] = [] := rfl

@[simp] theorem encode_cons (c : Char) (text : List Char) :
    encode (c :: text) = encodeChar c ++ encode text := rfl

@[simp] theorem encode_append (text more : List Char) :
    encode (text ++ more) = encode text ++ encode more := List.flatMap_append

/-- What has been read before only stands in front. -/
theorem readFrom_eq (before : List (Option Char)) (progress : Progress) (bytes : List UInt8) :
    readFrom before progress bytes = before.reverse ++ readFrom [] progress bytes := by
  induction bytes generalizing before progress with
  | nil => simp [readFrom]
  | cons byte bytes ih =>
    rw [readFrom, readFrom, ih, ih ((step progress byte).1.reverse ++ [])]
    simp

theorem readFrom_cons (progress : Progress) (byte : UInt8) (bytes : List UInt8) :
    readFrom [] progress (byte :: bytes) =
      (step progress byte).1 ++ readFrom [] (step progress byte).2 bytes := by
  rw [readFrom, readFrom_eq]
  simp

/-- A text that was written is read back, whatever bytes stand behind it. -/
theorem read_encode_append (text : List Char) (bytes : List UInt8) :
    read (encode text ++ bytes) = text.map some ++ read bytes := by
  induction text with
  | nil => rfl
  | cons c text ih =>
    rw [encode_cons, List.append_assoc, read, readFrom_encodeChar, readFrom_eq]
    simpa [read] using ih

theorem read_encode (text : List Char) : read (encode text) = text.map some := by
  simpa [read, readFrom, finish] using read_encode_append text []

/-- A text that was written is read back. -/
@[simp] theorem read?_encode (text : List Char) : read? (encode text) = some text := by
  simp [read?, read_encode]

/-- A text that was written is read back without any replacement. -/
@[simp] theorem readLossy_encode (text : List Char) : readLossy (encode text) = text := by
  simp [readLossy, read_encode, Function.comp_def]

theorem feed_mem_encode {text : List Char} : 10 ∈ encode text ↔ '\n' ∈ text := by
  simp only [encode, List.mem_flatMap, feed_mem_encodeChar, exists_eq_right]

theorem visible_of_mem_encode {text : List Char} {byte : UInt8}
    (visible : ∀ c ∈ text, 0x20 ≤ c.toNat) (member : byte ∈ encode text) :
    0x20 ≤ byte.toNat := by
  obtain ⟨c, inside, member⟩ := List.mem_flatMap.1 member
  exact visible_of_mem_encodeChar (visible c inside) member

theorem encode_eq_nil {text : List Char} : encode text = [] ↔ text = [] := by
  cases text with
  | nil => simp
  | cons c text =>
    have := read?_encode (c :: text)
    constructor
    · intro none
      rw [none] at this
      cases this
    · intro none
      cases none

end Tutor.Utf8
