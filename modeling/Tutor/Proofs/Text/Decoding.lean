import Tutor.Proofs.Text.Utf8

/-!
Bytes that are a text.

Bytes in which the reader finds no fault are those of the text that it reads (`encode_of_read?`), so
each text has one form. Within a character the reader holds what has been read of it; whichever
bytes it then accepts, they complete just the form of the character that it answers.
-/

namespace Tutor.Utf8

/-! ## Within a character -/

/-- Whichever bytes complete the character, behind `held` they are its written form: `more + 1`
bytes are to come, the next between `low` and `high`, and `value` holds the bits of `held`. -/
def Completes : Nat → Nat → Nat → Nat → List UInt8 → Prop
  | 0, value, low, high, held => ∀ byte : UInt8, low ≤ byte.toNat → byte.toNat ≤ high →
    encodeChar (Char.ofNat (0x40 * value + (byte.toNat - 0x80))) = held ++ [byte]
  | more + 1, value, low, high, held => ∀ byte : UInt8, low ≤ byte.toNat → byte.toNat ≤ high →
    Completes more (0x40 * value + (byte.toNat - 0x80)) 0x80 0xBF (held ++ [byte])

/-- The bytes `held` are what has been read of a character. -/
def Progress.Holds : Progress → List UInt8 → Prop
  | .fresh, held => held = []
  | .within value more low high, held => Completes more value low high held

theorem ofNat_eq {n : Nat} (byte : UInt8) (same : n = byte.toNat) : UInt8.ofNat n = byte := by
  rw [same, UInt8.ofNat_toNat]

theorem toNat_ofNat_of_scalar {n : Nat} (scalar : n < 0xD800 ∨ 0xDFFF < n ∧ n < 0x110000) :
    (Char.ofNat n).toNat = n := by
  rw [Char.ofNat, dif_pos scalar]
  rfl

theorem completes_two {first : UInt8} (low : 0xC2 ≤ first.toNat) (high : first.toNat ≤ 0xDF) :
    Completes 0 (first.toNat - 0xC0) 0x80 0xBF [first] := by
  intro second _ _
  simp only [encodeChar]
  rw [toNat_ofNat_of_scalar (by omega), if_neg (by omega), if_pos (by omega),
    ofNat_eq first (by omega), ofNat_eq second (by omega)]
  rfl

theorem completes_three {first : UInt8} (low : 0xE0 ≤ first.toNat) (high : first.toNat ≤ 0xEF) :
    Completes 1 (first.toNat - 0xE0) (if first.toNat = 0xE0 then 0xA0 else 0x80)
      (if first.toNat = 0xED then 0x9F else 0xBF) [first] := by
  intro second _ _ third _ _
  have least : first.toNat = 0xE0 → 0xA0 ≤ second.toNat := fun same => by simp_all
  have most : first.toNat = 0xED → second.toNat ≤ 0x9F := fun same => by simp_all
  have bounds : 0x80 ≤ second.toNat ∧ second.toNat ≤ 0xBF := by
    constructor
    · split_ifs at * <;> omega
    · split_ifs at * <;> omega
  simp only [encodeChar]
  rw [toNat_ofNat_of_scalar (by omega), if_neg (by omega), if_neg (by omega), if_pos (by omega),
    ofNat_eq first (by omega), ofNat_eq second (by omega),
    ofNat_eq third (by omega)]
  rfl

theorem completes_four {first : UInt8} (low : 0xF0 ≤ first.toNat) (high : first.toNat ≤ 0xF4) :
    Completes 2 (first.toNat - 0xF0) (if first.toNat = 0xF0 then 0x90 else 0x80)
      (if first.toNat = 0xF4 then 0x8F else 0xBF) [first] := by
  intro second _ _ third _ _ fourth _ _
  have least : first.toNat = 0xF0 → 0x90 ≤ second.toNat := fun same => by simp_all
  have most : first.toNat = 0xF4 → second.toNat ≤ 0x8F := fun same => by simp_all
  have bounds : 0x80 ≤ second.toNat ∧ second.toNat ≤ 0xBF := by
    constructor
    · split_ifs at * <;> omega
    · split_ifs at * <;> omega
  simp only [encodeChar]
  rw [toNat_ofNat_of_scalar (by omega), if_neg (by omega), if_neg (by omega), if_neg (by omega),
    ofNat_eq first (by omega), ofNat_eq second (by omega),
    ofNat_eq third (by omega), ofNat_eq fourth (by omega)]
  rfl

/-! ## One byte -/

/-- What may begin a character, by the number of its bytes; all other bytes are faults. -/
theorem holds_lead {byte : UInt8} (clean : none ∉ (lead byte.toNat).1) :
    (lead byte.toNat).1 = [] ∧ (lead byte.toNat).2.Holds [byte] ∨
      ∃ c, lead byte.toNat = ([some c], .fresh) ∧ encodeChar c = [byte] := by
  by_cases one : byte.toNat < 0x80
  · refine .inr ⟨Char.ofNat byte.toNat, if_pos one, ?_⟩
    simp only [encodeChar]
    rw [toNat_ofNat_of_scalar (by omega), if_pos one, UInt8.ofNat_toNat]
  by_cases two : 0xC2 ≤ byte.toNat ∧ byte.toNat ≤ 0xDF
  · have begins : lead byte.toNat = ([], .within (byte.toNat - 0xC0) 0 0x80 0xBF) := by
      rw [lead, if_neg one, if_pos two]
    rw [begins]
    exact .inl ⟨rfl, completes_two two.1 two.2⟩
  by_cases three : 0xE0 ≤ byte.toNat ∧ byte.toNat ≤ 0xEF
  · rw [lead_three three.1 three.2]
    exact .inl ⟨rfl, completes_three three.1 three.2⟩
  by_cases four : 0xF0 ≤ byte.toNat ∧ byte.toNat ≤ 0xF4
  · rw [lead_four four.1 four.2]
    exact .inl ⟨rfl, completes_four four.1 four.2⟩
  · have fault : lead byte.toNat = ([none], .fresh) := by
      rw [lead, if_neg one, if_neg two, if_neg (by omega), if_neg (by omega), if_neg (by omega),
        if_neg (by omega), if_neg (by omega), if_neg (by omega)]
    simp [fault] at clean

/-- A byte without a fault is held with those before it, or it completes a character whose written
form they are. -/
theorem Progress.Holds.step {progress : Progress} {held : List UInt8} (holds : progress.Holds held)
    {byte : UInt8} (clean : none ∉ (Utf8.step progress byte).1) :
    (Utf8.step progress byte).1 = [] ∧ (Utf8.step progress byte).2.Holds (held ++ [byte]) ∨
      ∃ c, Utf8.step progress byte = ([some c], .fresh) ∧ encodeChar c = held ++ [byte] := by
  cases progress with
  | fresh =>
    cases holds
    exact holds_lead clean
  | within value more low high =>
    by_cases accepted : low ≤ byte.toNat ∧ byte.toNat ≤ high
    · cases more with
      | zero =>
        exact .inr ⟨_, by simp only [Utf8.step, if_pos accepted], holds byte accepted.1 accepted.2⟩
      | succ more =>
        have next : Utf8.step (.within value (more + 1) low high) byte =
            ([], .within (0x40 * value + (byte.toNat - 0x80)) more 0x80 0xBF) := by
          simp only [Utf8.step, if_pos accepted]
        rw [next]
        exact .inl ⟨rfl, holds byte accepted.1 accepted.2⟩
    · simp [Utf8.step, accepted] at clean

/-! ## Texts -/

theorem encode_readFrom {progress : Progress} {held : List UInt8} (holds : progress.Holds held)
    {bytes : List UInt8} (clean : none ∉ readFrom [] progress bytes) :
    encode ((readFrom [] progress bytes).filterMap id) = held ++ bytes := by
  induction bytes generalizing progress held with
  | nil =>
    cases progress with
    | fresh =>
      cases holds
      rfl
    | within => simp [readFrom, finish] at clean
  | cons byte bytes ih =>
    rw [readFrom_cons, List.mem_append, not_or] at clean
    rw [readFrom_cons, List.filterMap_append, encode_append]
    rcases holds.step clean.1 with ⟨nothing, behind⟩ | ⟨c, complete, form⟩
    · rw [nothing, ih behind clean.2, List.append_assoc]
      rfl
    · rw [complete] at clean ⊢
      have fresh : Progress.fresh.Holds [] := rfl
      have later := ih fresh clean.2
      simp only [later, List.filterMap_cons_some (f := id) rfl, List.filterMap_nil, encode_cons,
        encode_nil, form, List.append_nil, List.nil_append, List.append_assoc,
        List.singleton_append]

/-- Bytes that hold a text are its written form. -/
theorem encode_of_read? {bytes : List UInt8} {text : List Char} (reads : read? bytes = some text) :
    encode text = bytes := by
  simp only [read?] at reads
  split at reads
  · rename_i all
    cases reads
    have clean : none ∉ read bytes := fun fault => by simpa using List.all_eq_true.1 all none fault
    have fresh : Progress.fresh.Holds [] := rfl
    exact encode_readFrom fresh clean
  · cases reads

/-- Bytes in front of a line feed that hold a text together with it hold one without it. -/
theorem eq_encode_of_read?_feed {line : List UInt8} {text : List Char}
    (reads : read? (line ++ [10]) = some text) : ∃ before, line = encode before := by
  have same := encode_of_read? reads
  rcases List.eq_nil_or_concat text with rfl | ⟨before, last, rfl⟩
  · simp at same
  rw [List.concat_eq_append, encode_append] at same
  rcases List.eq_nil_or_concat (encode [last]) with none | ⟨lead, byte, bytes⟩
  · cases encode_eq_nil.1 none
  -- The last byte of the last character is that of a line feed, which stands in no other.
  have feed : last = '\n' := by
    rw [bytes, List.concat_eq_append, ← List.append_assoc] at same
    have isFeed : byte = 10 := List.singleton_inj.1 (List.append_inj' same rfl).2
    have member : 10 ∈ encode [last] := by
      rw [bytes, isFeed]
      simp
    exact (List.mem_singleton.1 (feed_mem_encode.1 member)).symm
  rw [feed] at same
  exact ⟨before, ((List.append_left_inj [10]).1 same).symm⟩

end Tutor.Utf8
