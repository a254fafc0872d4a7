import Tutor.Proofs.Protocol.Header

/-!
Streams that are cut.

A call of the reader depends only on the bytes that it takes. If more bytes stand behind those of a
stream, a call that has not come to their end finds the same and leaves the rest with the new bytes
behind it. Any other call, on the longer stream, takes some of the new bytes; on the shorter one it
leaves nothing and finds no message (`readMessage_append`).
-/

namespace Tutor

/-! ## Headers -/

theorem Text.takeLine_append_of_not_mem {bytes : List UInt8} (clean : 10 ∉ bytes)
    (more : List UInt8) : (takeLine (bytes ++ more)).2 = (takeLine more).2 := by
  induction more using lineInduction (10 : UInt8) with
  | rest more cleanMore =>
    have both : 10 ∉ bytes ++ more := fun member => (List.mem_append.1 member).elim clean cleanMore
    rw [takeLine_of_not_mem both, takeLine_of_not_mem cleanMore]
  | line line more cleanLine _ =>
    have both : 10 ∉ bytes ++ line := fun member => (List.mem_append.1 member).elim clean cleanLine
    rw [← List.append_assoc, takeLine_append both, takeLine_append cleanLine]

/-- A header takes at least the first line. -/
theorem readHeader_length_le_takeLine {bytes : List UInt8} (nonempty : bytes ≠ []) (begun : Bool)
    (length : Nat) :
    (readHeader begun length bytes).2.length ≤ (Text.takeLine bytes).2.length := by
  rw [readHeader_of_ne_nil nonempty]
  split
  · exact Nat.le_refl _
  · split
    · split
      · exact Nat.le_refl _
      · exact readHeader_length_le _ _ _
    · exact readHeader_length_le _ _ _

/-- Bytes without a line feed are all taken, and then some of the new bytes. -/
theorem readHeader_unfinished {bytes more : List UInt8} (clean : 10 ∉ bytes) (nonempty : more ≠ [])
    (begun : Bool) (length : Nat) :
    (readHeader begun length bytes).2 = [] ∧
      (readHeader begun length (bytes ++ more)).2.length < more.length := by
  constructor
  · rcases eq_or_ne bytes [] with rfl | some
    · rw [readHeader_nil]
    · have le := readHeader_length_le_takeLine some begun length
      rw [Text.takeLine_of_not_mem clean] at le
      exact List.eq_nil_of_length_eq_zero (Nat.le_zero.1 le)
  · have some : bytes ++ more ≠ [] := List.append_ne_nil_of_right_ne_nil bytes nonempty
    have le := readHeader_length_le_takeLine some begun length
    rw [Text.takeLine_append_of_not_mem clean] at le
    exact le.trans_lt (Text.takeLine_length_lt nonempty)

/-- A header either ends before the new bytes, or takes some of them. -/
theorem readHeader_append (length : Nat) (bytes : List UInt8) {more : List UInt8}
    (nonempty : more ≠ []) :
    readHeader false length (bytes ++ more) =
        ((readHeader false length bytes).1, (readHeader false length bytes).2 ++ more) ∨
      (readHeader false length bytes).2 = [] ∧
        (readHeader false length (bytes ++ more)).2.length < more.length := by
  obtain ⟨blanks, fields, rest, lines, -, stop, rfl⟩ := exists_headerLines false bytes
  rw [List.append_assoc, readHeader_lines lines, readHeader_lines lines]
  generalize (!fields.isEmpty) = begun at stop ⊢
  -- The new bytes matter only where no line feed is left.
  cases stop with
  | closing empty =>
    have blank := (isEmptyLine_iff empty.clean).1 empty
    rw [List.append_assoc, List.cons_append, readHeader_line empty.clean,
      readHeader_line empty.clean, if_pos blank, if_pos blank]
    exact .inl rfl
  | notText clean notText =>
    rw [List.append_assoc, List.cons_append, readHeader_notText clean notText,
      readHeader_notText clean notText]
    exact .inl rfl
  | last clean =>
    exact .inr (readHeader_unfinished (Utf8.feed_mem_encode.not.2 clean) nonempty _ _)
  | lastNotText clean _ => exact .inr (readHeader_unfinished clean nonempty _ _)

/-! ## Calls of the reader -/

theorem readBody_append_more (length : Nat) (bytes : List UInt8) {more : List UInt8}
    (nonempty : more ≠ []) :
    (readBody length (bytes ++ more)).answer =
        ((readBody length bytes).incoming, (readBody length bytes).rest ++ more) ∨
      (readBody length bytes).answer = (.cutShort, []) ∧
        (readBody length (bytes ++ more)).rest.length < more.length := by
  have some := List.length_pos_iff.2 nonempty
  unfold readBody
  by_cases zero : length = 0
  · rw [if_pos zero, if_pos zero]
    exact .inl rfl
  by_cases long : maxLength < length
  · rw [if_neg zero, if_neg zero, if_pos long, if_pos long]
    exact .inl rfl
  rw [if_neg zero, if_neg zero, if_neg long, if_neg long]
  by_cases short : bytes.length < length
  · rw [if_pos short]
    refine .inr ⟨rfl, ?_⟩
    split
    · exact some
    · simp only [List.length_drop, List.length_append]
      omega
  · have le : length ≤ bytes.length := Nat.not_lt.1 short
    rw [if_neg short, if_neg (by rw [List.length_append]; omega),
      List.take_append_of_le_length le, List.drop_append_of_le_length le]
    exact .inl rfl

/-- Without any bytes no body is read. -/
theorem readBody_nil (length : Nat) :
    (readBody length []).rest = [] ∧ ∀ m, (readBody length []).incoming ≠ .message m := by
  unfold readBody
  split
  · exact ⟨rfl, nofun⟩
  split
  · exact ⟨rfl, nofun⟩
  · rename_i positive _
    have short : ([] : List UInt8).length < length := Nat.pos_of_ne_zero positive
    rw [if_pos short]
    exact ⟨rfl, nofun⟩

/-- A call of the reader finds the same if more bytes stand behind the stream, or else it takes some
of them; then it finds no message without them, and leaves nothing. -/
theorem readMessage_append (bytes more : List UInt8) :
    readMessage (bytes ++ more) = ((readMessage bytes).1, (readMessage bytes).2 ++ more) ∨
      (readMessage bytes).2 = [] ∧ (∀ m, (readMessage bytes).1 ≠ .message m) ∧
        (readMessage (bytes ++ more)).2.length < more.length := by
  rcases eq_or_ne more [] with rfl | nonempty
  · exact .inl (by rw [List.append_nil, List.append_nil])
  cases header : readHeader false 0 bytes with | mk found rest =>
  have calls := readHeader_append 0 bytes nonempty
  rw [header] at calls
  rcases calls with same | ⟨nothing, beyond⟩
  · cases found with
    | ended => exact .inl (by rw [readMessage_of_ended header, readMessage_of_ended same])
    | notText => exact .inl (by rw [readMessage_of_notText header, readMessage_of_notText same])
    | complete length =>
      rw [readMessage_of_complete header, readMessage_of_complete same]
      rcases readBody_append_more length rest nonempty with same | ⟨short, beyond⟩
      · exact .inl same
      · rw [short]
        exact .inr ⟨rfl, nofun, beyond⟩
  · have taken := (readMessage_suffix_readHeader (bytes ++ more)).length_le.trans_lt beyond
    cases nothing
    cases found with
    | ended =>
      rw [readMessage_of_ended header]
      exact .inr ⟨rfl, nofun, taken⟩
    | notText =>
      rw [readMessage_of_notText header]
      exact .inr ⟨rfl, nofun, taken⟩
    | complete length =>
      rw [readMessage_of_complete header]
      exact .inr ⟨(readBody_nil length).1, (readBody_nil length).2, taken⟩

/-! ## Calls of the reader, one after another -/

/-- The calls after the first are made behind it. -/
theorem readMessages_cons {count : Nat} {bytes : List UInt8} {first : Incoming}
    {found : List Incoming} {rest : List UInt8}
    (calls : readMessages (count + 1) bytes = (first :: found, rest)) :
    (readMessage bytes).1 = first ∧ readMessages count (readMessage bytes).2 = (found, rest) := by
  simpa [readMessages, Prod.ext_iff, and_assoc] using calls

theorem readMessages_concat {count : Nat} {bytes : List UInt8} {found : List Incoming}
    {last : Incoming} {rest : List UInt8} (length : found.length = count)
    (calls : readMessages (count + 1) bytes = (found ++ [last], rest)) :
    ∃ between, readMessages count bytes = (found, between) ∧
      readMessage between = (last, rest) := by
  induction found generalizing count bytes with
  | nil =>
    cases length
    obtain ⟨first, none⟩ := readMessages_cons calls
    cases none
    exact ⟨bytes, rfl, by rw [← first]⟩
  | cons incoming found ih =>
    cases length
    obtain ⟨first, others⟩ := readMessages_cons calls
    obtain ⟨between, before, after⟩ := ih rfl others
    refine ⟨between, ?_, after⟩
    rw [List.length_cons, readMessages, before, first]

/-- One call more, behind those before. -/
theorem readMessages_snoc {bytes behind : List UInt8} {found : List Incoming} {last : Incoming}
    (calls : readMessages found.length bytes = (found, behind))
    (final : (readMessage behind).1 = last) :
    readMessages (found.length + 1) bytes = (found ++ [last], (readMessage behind).2) := by
  induction found generalizing bytes with
  | nil =>
    cases calls
    rw [← final]
    rfl
  | cons first found ih =>
    obtain ⟨same, others⟩ := readMessages_cons calls
    rw [List.length_cons, readMessages, ih others, same]
    rfl

/-- What is left behind some calls is the end of the bytes. -/
theorem readMessages_suffix (count : Nat) (bytes : List UInt8) :
    (readMessages count bytes).2 <:+ bytes := by
  induction count generalizing bytes with
  | zero => exact List.suffix_rfl
  | succ count ih => exact (ih _).trans (readMessage_suffix bytes)

/-- Of what a reader finds on `bytes ++ more`, the calls for `complete` end within `bytes`, and the
call for the first of `later` takes some of `more`. -/
structure EndsWithin (bytes more : List UInt8) (complete later : List Incoming) : Prop where
  within : ∃ rest, readMessages complete.length (bytes ++ more) = (complete, rest ++ more)
  beyond : later ≠ [] → (readMessages (complete.length + 1) (bytes ++ more)).2.length < more.length

namespace EndsWithin

variable {bytes more : List UInt8} {complete later : List Incoming}

theorem none (beyond : (readMessage (bytes ++ more)).2.length < more.length) :
    EndsWithin bytes more [] later :=
  ⟨⟨bytes, rfl⟩, fun _ => beyond⟩

theorem single (same : readMessage (bytes ++ more) =
    ((readMessage bytes).1, (readMessage bytes).2 ++ more)) :
    EndsWithin bytes more [(readMessage bytes).1] [] :=
  ⟨⟨(readMessage bytes).2, by rw [List.length_singleton, readMessages, same]; rfl⟩, nofun⟩

theorem cons (same : readMessage (bytes ++ more) =
    ((readMessage bytes).1, (readMessage bytes).2 ++ more))
    (behind : EndsWithin (readMessage bytes).2 more complete later) :
    EndsWithin bytes more ((readMessage bytes).1 :: complete) later := by
  obtain ⟨rest, read⟩ := behind.within
  refine ⟨⟨rest, ?_⟩, fun some => ?_⟩
  · rw [List.length_cons, readMessages, same, read]
  · rw [List.length_cons, readMessages, same]
    exact behind.beyond some

end EndsWithin

end Tutor
