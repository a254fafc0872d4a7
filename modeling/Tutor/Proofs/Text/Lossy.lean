import Tutor.Proofs.Text.Decoding
import Tutor.Proofs.Text.Lines

/-!
Bytes of which only a part is text.

`Lossy` is the rule for reading them all the same: a character is read where one stands, and a
maximal subpart elsewhere, that is the longest run of bytes that begins a character or else a single
byte, is replaced by U+FFFD as a whole. The rule leaves no choice, and the reader keeps to it
(`lossy_iff`). As no character goes on with the byte of a line feed, bytes may be read line by line
(`read_allLines`).
-/

namespace Tutor.Utf8

/-! ## The rule -/

/-- The bytes `part` are what is replaced at once where they stand in front of `bytes`. -/
structure MaximalSubpart (part bytes : List UInt8) : Prop where
  nonempty : part ≠ []
  /-- No character stands there. -/
  unreadable : ∀ c, ¬ encodeChar c <+: part ++ bytes
  begins : part.length = 1 ∨ ∃ c, part <+: encodeChar c
  /-- With more bytes it would begin no character. -/
  longest : ∀ front, front <+: part ++ bytes → part.length < front.length →
    ∀ c, ¬ front <+: encodeChar c

/-- The bytes are read as this text, with U+FFFD for each maximal subpart. -/
inductive Lossy : List UInt8 → List Char → Prop
  | nil : Lossy [] []
  | char {bytes : List UInt8} {text : List Char} (c : Char) :
    Lossy bytes text → Lossy (encodeChar c ++ bytes) (c :: text)
  | fault {part bytes : List UInt8} {text : List Char} :
    MaximalSubpart part bytes → Lossy bytes text → Lossy (part ++ bytes) ('\uFFFD' :: text)

theorem read_encodeChar_append (c : Char) (bytes : List UInt8) :
    read (encodeChar c ++ bytes) = some c :: read bytes := by
  rw [read, readFrom_encodeChar, readFrom_eq]
  rfl

theorem encodeChar_ne_nil (c : Char) : encodeChar c ≠ [] := by
  intro none
  have read := read_encodeChar_append c []
  rw [none] at read
  cases read

/-- Where one character stands no other does. -/
theorem encodeChar_append_inj {c d : Char} {bytes more : List UInt8}
    (same : encodeChar c ++ bytes = encodeChar d ++ more) : c = d ∧ bytes = more := by
  have read := congrArg read same
  rw [read_encodeChar_append, read_encodeChar_append] at read
  have char : c = d := Option.some.inj (List.cons.inj read).1
  rw [char] at same
  exact ⟨char, List.append_cancel_left same⟩

/-- There is one maximal subpart at a place. -/
theorem MaximalSubpart.unique {part other bytes more : List UInt8}
    (left : MaximalSubpart part bytes) (right : MaximalSubpart other more)
    (same : part ++ bytes = other ++ more) : part = other ∧ bytes = more := by
  -- Of two different ones the longer would be a single byte, and the shorter empty.
  have le {p q b m : List UInt8} (first : MaximalSubpart p b) (second : MaximalSubpart q m)
      (same : p ++ b = q ++ m) : q.length ≤ p.length := by
    by_contra longer
    rcases second.begins with single | ⟨c, begins⟩
    · have := List.length_pos_iff.2 first.nonempty
      omega
    · exact first.longest q (same ▸ List.prefix_append q m) (by omega) c begins
  have length : part.length = other.length :=
    Nat.le_antisymm (le right left same.symm) (le left right same)
  exact List.append_inj same length

namespace Lossy

variable {part bytes : List UInt8} {text : List Char}

theorem of_nil (lossy : Lossy [] text) : text = [] := by
  generalize none : ([] : List UInt8) = empty at lossy
  cases lossy with
  | nil => rfl
  | char c _ => exact absurd (List.append_eq_nil_iff.1 none.symm).1 (encodeChar_ne_nil c)
  | fault maximal _ => exact absurd (List.append_eq_nil_iff.1 none.symm).1 maximal.nonempty

theorem of_char {c : Char} (lossy : Lossy (encodeChar c ++ bytes) text) :
    ∃ rest, text = c :: rest ∧ Lossy bytes rest := by
  generalize whole : encodeChar c ++ bytes = all at lossy
  cases lossy with
  | nil => exact absurd (List.append_eq_nil_iff.1 whole).1 (encodeChar_ne_nil c)
  | char d later =>
    obtain ⟨rfl, rfl⟩ := encodeChar_append_inj whole
    exact ⟨_, rfl, later⟩
  | fault maximal _ => exact absurd ⟨_, whole⟩ (maximal.unreadable c)

theorem of_fault (maximal : MaximalSubpart part bytes) (lossy : Lossy (part ++ bytes) text) :
    ∃ rest, text = '\uFFFD' :: rest ∧ Lossy bytes rest := by
  generalize whole : part ++ bytes = all at lossy
  cases lossy with
  | nil => exact absurd (List.append_eq_nil_iff.1 whole).1 maximal.nonempty
  | char c _ => exact absurd ⟨_, whole.symm⟩ (maximal.unreadable c)
  | fault other later =>
    obtain ⟨-, rfl⟩ := maximal.unique other whole
    exact ⟨_, rfl, later⟩

/-- The rule leaves no choice. -/
theorem unique {other : List Char} (left : Lossy bytes text) (right : Lossy bytes other) :
    text = other := by
  induction left generalizing other with
  | nil => exact right.of_nil.symm
  | char c _ ih =>
    obtain ⟨rest, rfl, later⟩ := right.of_char
    rw [ih later]
  | fault maximal _ ih =>
    obtain ⟨rest, rfl, later⟩ := of_fault maximal right
    rw [ih later]

end Lossy

/-! ## The reader within a character -/

/-- The bounds that the reader sets for the next byte: there is such a byte, and it is not in the
range of single bytes. -/
def Progress.Bounded : Progress → Prop
  | .fresh => True
  | .within _ _ low high => 0x80 ≤ low ∧ low ≤ high ∧ high ≤ 0xBF

theorem lead_bounded (byte : Nat) : (lead byte).2.Bounded := by
  unfold lead
  split_ifs <;> simp [Progress.Bounded]

theorem Progress.Bounded.step {progress : Progress} (bounded : progress.Bounded) (byte : UInt8) :
    (Utf8.step progress byte).2.Bounded := by
  cases progress with
  | fresh => exact lead_bounded byte.toNat
  | within value more low high =>
    by_cases accepted : low ≤ byte.toNat ∧ byte.toNat ≤ high
    · cases more <;> simp [Utf8.step, accepted, Bounded]
    · simp [Utf8.step, accepted, lead_bounded]

/-- Some character goes on as the reader expects it. -/
theorem Completes.exists_prefix {more value low high : Nat} {held : List UInt8}
    (completes : Completes more value low high held) (bounds : low ≤ high ∧ high ≤ 0xBF) :
    ∃ c, held <+: encodeChar c := by
  have least : (UInt8.ofNat low).toNat = low := toNat_ofNat_of_lt (by omega)
  induction more generalizing value low high held with
  | zero =>
    have whole := completes (.ofNat low) (by omega) (by omega)
    exact ⟨_, _, whole.symm⟩
  | succ more ih =>
    have next := completes (.ofNat low) (by omega) (by omega)
    obtain ⟨c, begins⟩ := ih next (by decide) rfl
    exact ⟨c, (List.prefix_append held _).trans begins⟩

/-- The reader has got here from between two characters by reading `held`. -/
structure Progress.Reads (progress : Progress) (held : List UInt8) : Prop where
  bounded : progress.Bounded
  holds : progress.Holds held
  reaches : ∀ bytes, read (held ++ bytes) = readFrom [] progress bytes

theorem Progress.Reads.fresh : Progress.fresh.Reads [] := ⟨trivial, rfl, fun _ => rfl⟩

/-- The text that the reader makes of bytes from some progress on. -/
def lossyFrom (progress : Progress) (bytes : List UInt8) : List Char :=
  (readFrom [] progress bytes).map (·.getD '\uFFFD')

theorem MaximalSubpart.of_read {part bytes : List UInt8} (nonempty : part ≠ [])
    (begins : part.length = 1 ∨ ∃ c, part <+: encodeChar c)
    (fault : (read (part ++ bytes)).head? = some none)
    (goesOn : ∀ byte rest more, bytes = byte :: rest →
      (read (part ++ byte :: more)).head? = some none) :
    MaximalSubpart part bytes where
  nonempty := nonempty
  unreadable := by
    intro c ⟨rest, whole⟩
    rw [← whole, read_encodeChar_append] at fault
    cases fault
  begins := begins
  longest := by
    intro front isFront longer c ⟨tail, whole⟩
    obtain ⟨more, rfl⟩ := List.prefix_of_prefix_length_le (List.prefix_append part bytes) isFront
      longer.le
    cases more with
    | nil => simp at longer
    | cons byte more =>
      obtain ⟨rest, same⟩ := (List.prefix_append_right_inj part).1 isFront
      have read := goesOn byte _ (more ++ tail) same.symm
      rw [← List.cons_append, ← List.append_assoc, whole, ← List.append_nil (encodeChar c),
        read_encodeChar_append] at read
      cases read

/-! ## The reader keeps to the rule -/

/-- A byte out of its bounds is read anew behind a fault. -/
theorem step_refused {value more low high : Nat} {byte : UInt8}
    (refused : ¬ (low ≤ byte.toNat ∧ byte.toNat ≤ high)) :
    step (.within value more low high) byte = (none :: (step .fresh byte).1, (step .fresh byte).2) :=
  if_neg refused

theorem lead_fault {byte : Nat} (fault : none ∈ (lead byte).1) : lead byte = ([none], .fresh) := by
  unfold lead at fault ⊢
  split_ifs at fault ⊢ <;> simp at fault ⊢

theorem Progress.Reads.step {progress : Progress} {held : List UInt8}
    (reads : progress.Reads held) {byte : UInt8} (silent : (Utf8.step progress byte).1 = [])
    (holds : (Utf8.step progress byte).2.Holds (held ++ [byte])) :
    (Utf8.step progress byte).2.Reads (held ++ [byte]) where
  bounded := reads.bounded.step byte
  holds := holds
  reaches := by
    intro bytes
    rw [List.append_assoc, List.singleton_append, reads.reaches, readFrom_cons, silent,
      List.nil_append]

/-- A byte that cannot begin a character is replaced alone. -/
theorem maximalSubpart_lead {byte : UInt8} (fault : none ∈ (lead byte.toNat).1)
    (bytes : List UInt8) : MaximalSubpart [byte] bytes := by
  have first (more : List UInt8) : (read (byte :: more)).head? = some none := by
    rw [read, readFrom_cons, step, lead_fault fault]
    rfl
  exact .of_read (List.cons_ne_nil _ _) (.inl rfl) (first bytes)
    fun next _ more _ => first (next :: more)

/-- The beginning of a character that does not go on is replaced as a whole. -/
theorem maximalSubpart_within {value more low high : Nat} {held bytes : List UInt8}
    (reads : (Progress.within value more low high).Reads held)
    (stops : ∀ byte rest, bytes = byte :: rest → ¬ (low ≤ byte.toNat ∧ byte.toNat ≤ high)) :
    MaximalSubpart held bytes := by
  have nonempty : held ≠ [] := by
    rintro rfl
    cases reads.reaches []
  have rejected {byte : UInt8} {rest : List UInt8} (same : bytes = byte :: rest)
      (behind : List UInt8) : (read (held ++ byte :: behind)).head? = some none := by
    rw [reads.reaches, readFrom_cons, step_refused (stops byte rest same)]
    rfl
  have fault : (read (held ++ bytes)).head? = some none := by
    cases bytes with
    | nil =>
      rw [reads.reaches]
      rfl
    | cons byte rest => exact rejected rfl rest
  exact .of_read nonempty (.inr (reads.holds.exists_prefix reads.bounded.2)) fault
    fun byte rest behind same => rejected same behind

/-- A byte in its place is held, or it completes a character. -/
theorem Progress.Reads.lossy_cons {progress : Progress} {held : List UInt8}
    (reads : progress.Reads held) {byte : UInt8} (clean : none ∉ (Utf8.step progress byte).1)
    {bytes : List UInt8}
    (later : ∀ {progress held}, progress.Reads held →
      Lossy (held ++ bytes) (lossyFrom progress bytes)) :
    Lossy (held ++ byte :: bytes) (lossyFrom progress (byte :: bytes)) := by
  rcases reads.holds.step clean with ⟨silent, holds⟩ | ⟨c, complete, form⟩
  · have rest := later (reads.step silent holds)
    rw [List.append_assoc] at rest
    rw [lossyFrom, readFrom_cons, silent]
    exact rest
  · have rest := (later .fresh).char c
    rw [form, List.append_assoc] at rest
    rw [lossyFrom, readFrom_cons, complete]
    exact rest

theorem Progress.Reads.lossy {progress : Progress} {held : List UInt8}
    (reads : progress.Reads held) (bytes : List UInt8) :
    Lossy (held ++ bytes) (lossyFrom progress bytes) := by
  induction bytes generalizing progress held with
  | nil =>
    cases progress with
    | fresh =>
      cases reads.holds
      exact .nil
    | within value more low high => exact .fault (maximalSubpart_within reads nofun) .nil
  | cons byte bytes ih =>
    -- A byte that ends a fault is read once more, then as the first of a character.
    have afresh : Lossy (byte :: bytes) (lossyFrom .fresh (byte :: bytes)) := by
      by_cases fault : none ∈ (lead byte.toNat).1
      · rw [lossyFrom, readFrom_cons, Utf8.step, lead_fault fault]
        exact .fault (maximalSubpart_lead fault bytes) (ih .fresh)
      · exact Progress.Reads.fresh.lossy_cons fault ih
    cases progress with
    | fresh =>
      cases reads.holds
      exact afresh
    | within value more low high =>
      by_cases accepted : low ≤ byte.toNat ∧ byte.toNat ≤ high
      · refine reads.lossy_cons ?_ ih
        cases more <;> simp [Utf8.step, accepted]
      · have maximal : MaximalSubpart held (byte :: bytes) := by
          refine maximalSubpart_within reads ?_
          intro first rest same
          cases same
          exact accepted
        have replaced : lossyFrom (.within value more low high) (byte :: bytes) =
            '\uFFFD' :: lossyFrom .fresh (byte :: bytes) := by
          rw [lossyFrom, lossyFrom, readFrom_cons, readFrom_cons, step_refused accepted]
          rfl
        rw [replaced]
        exact .fault maximal afresh

/-- The text that a reader makes of some bytes is what the rule makes of them. -/
theorem lossy_iff {bytes : List UInt8} {text : List Char} :
    Lossy bytes text ↔ readLossy bytes = text := by
  have keeps : Lossy bytes (readLossy bytes) := Progress.Reads.fresh.lossy bytes
  constructor
  · exact keeps.unique
  · rintro rfl
    exact keeps

/-! ## Line by line -/

theorem Progress.Bounded.step_feed {progress : Progress} (bounded : progress.Bounded) :
    Utf8.step progress 10 = (finish progress ++ [some '\n'], .fresh) := by
  cases progress with
  | fresh => rfl
  | within value more low high =>
    have refused : ¬ (low ≤ (10 : UInt8).toNat ∧ (10 : UInt8).toNat ≤ high) := by
      intro accepted
      have := bounded.1.trans accepted.1
      contradiction
    rw [step_refused refused]
    rfl

/-- A line feed ends whatever the reader is in the middle of, as the end of the bytes does. -/
theorem Progress.Bounded.readFrom_feed {progress : Progress} (bounded : progress.Bounded)
    (line bytes : List UInt8) :
    readFrom [] progress (line ++ 10 :: bytes) =
      readFrom [] progress (line ++ [10]) ++ read bytes := by
  induction line generalizing progress with
  | nil =>
    rw [List.nil_append, List.nil_append, readFrom_cons, readFrom_cons, bounded.step_feed]
    simp [readFrom, finish, read]
  | cons byte line ih =>
    rw [List.cons_append, List.cons_append, readFrom_cons, readFrom_cons, ih (bounded.step byte),
      List.append_assoc]

/-- Reading line by line finds the same characters and the same faults. -/
theorem read_allLines (bytes : List UInt8) : (Text.allLines bytes).flatMap read = read bytes := by
  induction bytes using Text.lineInduction (10 : UInt8) with
  | rest bytes clean =>
    rw [Text.allLines_of_not_mem clean]
    split
    · rename_i none
      rw [none]
      rfl
    · rw [List.flatMap_singleton]
  | line line bytes clean ih =>
    have fresh : Progress.fresh.Bounded := trivial
    rw [Text.allLines_cons clean, List.flatMap_cons, ih]
    exact (fresh.readFrom_feed line bytes).symm

theorem readLossy_allLines (bytes : List UInt8) :
    (Text.allLines bytes).flatMap readLossy = readLossy bytes := by
  rw [readLossy, ← read_allLines, List.map_flatMap]
  rfl

end Tutor.Utf8
