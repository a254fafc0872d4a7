import Mathlib.Data.List.Infix
import Tutor.Proofs.Protocol.Header

/-!
Frames beyond the limit.

Such a frame is refused behind its header, so what a reader finds next is read from its body. The
frames behind it are found as they are only if the body ends where a line ends and is made of
header lines, none of which ends a header (`incomings_frame_tooLong`). Any other body is taken for
something of its own: bytes of it count as a message, or swallow the frame behind it.
-/

namespace Tutor

/-! ## What is found on a stream -/

theorem incomings_eq (bytes : List UInt8) :
    incomings bytes = (readMessage bytes).1 ::
      if (readMessage bytes).1.goesOn then incomings (readMessage bytes).2 else [] := by
  rw [incomings]
  split <;> rfl

theorem incomings_of_goesOn {bytes rest : List UInt8} {incoming : Incoming}
    (read : readMessage bytes = (incoming, rest)) (goesOn : incoming.goesOn = true) :
    incomings bytes = incoming :: incomings rest := by
  rw [incomings_eq, read, if_pos goesOn]

theorem incomings_of_ended {bytes rest : List UInt8} (read : readMessage bytes = (.ended, rest)) :
    incomings bytes = [.ended] := by
  rw [incomings_eq, read]
  rfl

/-- Frames within the limit are found one by one. -/
theorem incomings_frames {bodies : List (List UInt8)}
    (within : ∀ body ∈ bodies, body.length ≤ maxLength) :
    incomings (bodies.flatMap frame) = bodies.map Incoming.ofFrame ++ [.ended] := by
  induction bodies with
  | nil => exact incomings_of_ended readMessage_nil
  | cons body bodies ih =>
    obtain ⟨first, others⟩ := List.forall_mem_cons.1 within
    rw [List.flatMap_cons, incomings_of_goesOn (readMessage_frame first _)
      (Incoming.ofFrame_goesOn _), ih others]
    rfl

/-! ## The header of a frame behind other bytes -/

theorem readLength_of_colon {text : List Char} (colon : ':' ∈ text) : readLength text = 0 := by
  have kept : ':' ∈ Text.trim text := Text.mem_trim (by decide) colon
  have noDigits {digits : List Char} (colon : ':' ∈ digits) :
      Text.readNumber Text.wordBound digits = none := by
    refine if_neg fun isNumber => ?_
    have digit := List.all_eq_true.1 isNumber.2.1 ':' colon
    cases digit
  simp only [readLength]
  split
  · rename_i digits signed
    rw [signed, List.mem_cons] at kept
    rw [noDigits (kept.resolve_left (by decide))]
    rfl
  · rw [noDigits kept]
    rfl

/-- A line that tells a length tells it no more if it goes on a line that has begun: either it tells
no length, or zero. Which of the two does not depend on the length. -/
theorem lengthAfter_joined {front : List Char} (nonempty : front ≠ []) (length : Nat)
    (value : List Char) :
    lengthAfter length (front ++ (lengthField.toList ++ value)) =
      if lengthField.toList <+: front ++ lengthField.toList then 0 else length := by
  have longer := List.length_pos_iff.2 nonempty
  have prefixes : lengthField.toList <+: front ++ (lengthField.toList ++ value) ↔
      lengthField.toList <+: front ++ lengthField.toList := by
    rw [← List.append_assoc]
    exact List.isPrefix_append_of_length (by rw [List.length_append]; omega)
  simp only [lengthAfter, Text.dropLead, List.isPrefixOf_iff_prefix, prefixes]
  split
  · rename_i told
    split at told
    · rename_i opens
      cases told
      rw [if_pos opens]
      apply readLength_of_colon
      have field : lengthField.toList = "Content-Length".toList ++ [':'] := rfl
      rw [field, List.append_assoc, ← List.append_assoc front,
        List.drop_append_of_le_length (by simp; omega)]
      simp
    · cases told
  · rename_i told
    split at told
    · cases told
    · rename_i other
      rw [if_neg other]

/-! ## Behind a refused frame -/

/-- A frame beyond the limit is refused, and its body is left to read. -/
theorem readMessage_frame_tooLong {body : List UInt8} (beyond : maxLength < body.length)
    (below : body.length < Text.wordBound) (rest : List UInt8) :
    readMessage (frame body ++ rest) = (.fault (.tooLong body.length), body ++ rest) := by
  rw [readMessage_of_complete (readHeader_frame below false 0 rest), readBody, if_neg (by omega),
    if_pos beyond]
  rfl

/-- Lines of a header in front of a frame make no difference. -/
theorem readMessage_lines_frame {blanks fields : List (List Char)}
    (lines : HeaderLines blanks fields) {body : List UInt8} (within : body.length ≤ maxLength)
    (rest : List UInt8) :
    readMessage (lineBytes (blanks ++ fields) ++ (frame body ++ rest)) = (.ofFrame body, rest) := by
  have below : body.length < Text.wordBound := within.trans_lt (by decide)
  have header := (readHeader_lines lines 0 _).trans (readHeader_frame below _ _ rest)
  rw [readMessage_of_complete header, readBody_append within]

theorem incomings_lines_frames {blanks fields : List (List Char)}
    (lines : HeaderLines blanks fields) {bodies : List (List UInt8)}
    (within : ∀ body ∈ bodies, body.length ≤ maxLength) :
    incomings (lineBytes (blanks ++ fields) ++ bodies.flatMap frame) =
      bodies.map Incoming.ofFrame ++ [.ended] := by
  cases bodies with
  | nil =>
    have header := (readHeader_lines lines 0 []).trans (readHeader_nil _ _)
    exact incomings_of_ended (readMessage_of_ended header)
  | cons body bodies =>
    obtain ⟨first, others⟩ := List.forall_mem_cons.1 within
    rw [List.flatMap_cons, incomings_of_goesOn (readMessage_lines_frame lines first _)
      (Incoming.ofFrame_goesOn _), incomings_frames others]
    rfl

theorem readMessage_ended_iff {bytes : List UInt8} :
    (readMessage bytes).1 = .ended ↔ (readHeader false 0 bytes).1 = .ended := by
  cases header : readHeader false 0 bytes with | mk found rest =>
  cases found with
  | ended => exact iff_of_true (by rw [readMessage_of_ended header]) rfl
  | notText => exact iff_of_false (by rw [readMessage_of_notText header]; nofun) nofun
  | complete length =>
    refine iff_of_false ?_ nofun
    rw [readMessage_of_complete header]
    unfold readBody Incoming.ofBody
    repeat' split
    all_goals nofun

/-- Behind a line that has begun, what is read of a frame depends on the lines in front alone. -/
theorem readMessage_joined {blanks fields : List (List Char)} (lines : HeaderLines blanks fields)
    {last : List Char} (clean : '\n' ∉ last) (nonempty : last ≠ []) (body : List UInt8) :
    readMessage (lineBytes (blanks ++ fields) ++ Utf8.encode last ++ frame body) =
      (readBody (if lengthField.toList <+: last ++ lengthField.toList then 0
        else lengthTold 0 fields) body).answer := by
  have joined := readHeader_joined clean body (!fields.isEmpty) (lengthTold 0 fields) []
  rw [lengthAfter_joined nonempty, List.append_nil, List.append_nil] at joined
  apply readMessage_of_complete
  rw [List.append_assoc, readHeader_lines lines, joined]

/-- No one length is right for all frames. -/
theorem exists_readBody_ne (length : Nat) :
    ∃ body : List UInt8, body.length ≤ maxLength ∧
      (readBody length body).incoming ≠ .ofFrame body := by
  rcases Nat.eq_zero_or_pos length with rfl | positive
  · have noMessage : Incoming.ofFrame [0x7B] = .fault .notMessage := by with_unfolding_all rfl
    refine ⟨[0x7B], by decide, ?_⟩
    rw [noMessage, readBody, if_pos rfl]
    simp
  · have noLength : Incoming.ofFrame [] = .fault .noLength := by
      rw [Incoming.ofFrame, message_of_nothing, if_pos rfl]
    have short : ([] : List UInt8).length < length := positive
    refine ⟨[], Nat.zero_le _, ?_⟩
    rw [noLength, readBody, if_neg positive.ne', if_pos short]
    split <;> simp

/-- If nothing is found in some bytes alone, and in front of frames only what these hold, then the
bytes are whole lines of a header. -/
theorem lines_of_transparent {bytes : List UInt8} (alone : (readMessage bytes).1 = .ended)
    (front : ∀ body : List UInt8, body.length ≤ maxLength →
      (readMessage (bytes ++ frame body)).1 = .ofFrame body) :
    ∃ blanks fields, HeaderLines blanks fields ∧ bytes = lineBytes (blanks ++ fields) := by
  obtain ⟨blanks, fields, last, lines, clean, rfl⟩ :=
    readHeader_ended (Prod.ext (readMessage_ended_iff.1 alone) rfl)
  rcases eq_or_ne last [] with rfl | nonempty
  · exact ⟨blanks, fields, lines, by simp⟩
  · obtain ⟨body, within, differs⟩ := exists_readBody_ne
      (if lengthField.toList <+: last ++ lengthField.toList then 0 else lengthTold 0 fields)
    have joined := congrArg Prod.fst (readMessage_joined lines clean nonempty body)
    exact absurd (joined.symm.trans (front body within)) differs

/-- A frame beyond the limit is refused, and then its body is read as if it stood alone. So the
frames behind it are found, and nothing else, exactly where the body is made of whole lines of a
header: empty ones, and then others. -/
theorem incomings_frame_tooLong {body : List UInt8} (beyond : maxLength < body.length)
    (below : body.length < Text.wordBound) :
    (∀ rest, readMessage (frame body ++ rest) = (.fault (.tooLong body.length), body ++ rest)) ∧
      ((∀ bodies : List (List UInt8), (∀ other ∈ bodies, other.length ≤ maxLength) →
          incomings (frame body ++ bodies.flatMap frame) =
            .fault (.tooLong body.length) :: (bodies.map Incoming.ofFrame ++ [.ended])) ↔
        ∃ blanks fields, HeaderLines blanks fields ∧ body = lineBytes (blanks ++ fields)) := by
  have refused := readMessage_frame_tooLong beyond below
  have step (rest : List UInt8) : incomings (frame body ++ rest) =
      .fault (.tooLong body.length) :: incomings (body ++ rest) :=
    incomings_of_goesOn (refused rest) rfl
  refine ⟨refused, ?_, ?_⟩
  · intro dropped
    have next (bodies : List (List UInt8)) (within : ∀ other ∈ bodies, other.length ≤ maxLength) :
        incomings (body ++ bodies.flatMap frame) = bodies.map Incoming.ofFrame ++ [.ended] :=
      (List.cons.inj ((step _).symm.trans (dropped bodies within))).2
    apply lines_of_transparent
    · have alone := next [] nofun
      rw [List.flatMap_nil, List.append_nil, incomings_eq] at alone
      exact (List.cons.inj alone).1
    · intro other within
      have found := next [other] (List.forall_mem_singleton.2 within)
      rw [List.flatMap_singleton, incomings_eq] at found
      exact (List.cons.inj found).1
  · rintro ⟨blanks, fields, lines, same⟩ bodies within
    rw [step]
    congr 1
    rw [same, incomings_lines_frames lines within]

/-- A body of line feeds is dropped. -/
theorem incomings_frame_tooLong_feeds :
    let body := List.replicate (maxLength + 1) (10 : UInt8)
    maxLength < body.length ∧ body.length < Text.wordBound ∧
      ∀ bodies : List (List UInt8), (∀ other ∈ bodies, other.length ≤ maxLength) →
        incomings (frame body ++ bodies.flatMap frame) =
          .fault (.tooLong body.length) :: (bodies.map Incoming.ofFrame ++ [.ended]) := by
  intro body
  have length : body.length = maxLength + 1 := List.length_replicate
  have beyond : maxLength < body.length := by omega
  have below : body.length < Text.wordBound := by
    rw [length]
    decide
  have lines : HeaderLines (List.replicate (maxLength + 1) []) [] := by
    have empty : ∀ line ∈ List.replicate (maxLength + 1) ([] : List Char), line = [] :=
      fun line member => List.eq_of_mem_replicate member
    constructor
    · intro line member
      rw [List.append_nil] at member
      rw [empty line member]
      exact List.not_mem_nil
    · intro line member
      rw [empty line member]
      nofun
    · nofun
  refine ⟨beyond, below, (incomings_frame_tooLong beyond below).2.2 ⟨_, _, lines, ?_⟩⟩
  simp [lineBytes, body, List.flatMap_replicate]

/-- A message in the body of a frame that is refused is found, and not the one behind that frame. -/
theorem incomings_frame_tooLong_message :
    let reset := Utf8.encode "\x7b\"seq\":1,\"type\":\"request\",\"command\":\"reset\"\x7d".toList
    let disconnect := Utf8.encode
      "\x7b\"seq\":2,\"type\":\"request\",\"command\":\"disconnect\"\x7d".toList
    let body := frame reset ++ List.replicate maxLength 32
    maxLength < body.length ∧ body.length < Text.wordBound ∧ disconnect.length ≤ maxLength ∧
      incomings (frame body ++ frame disconnect) ≠
        [.fault (.tooLong body.length), .ofFrame disconnect, .ended] := by
  intro reset disconnect body
  have within : reset.length ≤ maxLength := by decide
  have header : (frame reset).length = 66 := by decide
  have length : body.length = 66 + maxLength := by
    rw [List.length_append, List.length_replicate, header]
  have beyond : maxLength < body.length := by omega
  have below : body.length < Text.wordBound := by
    rw [length]
    decide
  refine ⟨beyond, below, by decide, fun same => ?_⟩
  rw [incomings_of_goesOn (readMessage_frame_tooLong beyond below _) rfl, List.append_assoc,
    incomings_of_goesOn (readMessage_frame within _) (Incoming.ofFrame_goesOn _)] at same
  have found : Incoming.ofFrame reset = Incoming.ofFrame disconnect :=
    (List.cons.inj (List.cons.inj same).2).1
  have first : Incoming.ofFrame reset = .message ⟨1, "request", .request "reset" none⟩ := by
    subst reset
    with_unfolding_all rfl
  have second : Incoming.ofFrame disconnect =
      .message ⟨2, "request", .request "disconnect" none⟩ := by
    subst disconnect
    with_unfolding_all rfl
  rw [first, second] at found
  cases found

end Tutor
