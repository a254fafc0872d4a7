import Tutor.Proofs.Text.Blank
import Tutor.Proofs.Text.Lines
import Tutor.Protocol.Frame

/-!
Reading one frame after another.

`readMessages count` calls the reader `count` times, each time behind what the call before has
consumed. `readHeader_line` says what one line of a header does; from it a frame is read back
whatever stands behind it (`readMessage_frame`), and so are frames in a row: a body that is no
message costs its own frame and no byte more.
-/

namespace Tutor

/-- What `count` calls of the reader find, and the bytes behind all that they have consumed. -/
def readMessages : Nat → List UInt8 → List Incoming × List UInt8
  | 0, bytes => ([], bytes)
  | count + 1, bytes =>
    let (found, rest) := readMessages count (readMessage bytes).2
    ((readMessage bytes).1 :: found, rest)

/-- What a frame with this body holds: its message, or a fault where the body is empty or no
message. -/
def Incoming.ofFrame (body : List UInt8) : Incoming :=
  match (Utf8.read? body).bind Message.ofJson? with
  | some m => .message m
  | none => .fault (if body = [] then .noLength else .notMessage)

theorem Incoming.ofFrame_goesOn (body : List UInt8) : (ofFrame body).goesOn = true := by
  unfold ofFrame
  split <;> rfl

/-! ## Headers -/

theorem readHeader_of_ne_nil {bytes : List UInt8} (nonempty : bytes ≠ []) (begun : Bool)
    (length : Nat) :
    readHeader begun length bytes =
      match Utf8.read? (Text.takeLine bytes).1 with
      | none => (.notText, (Text.takeLine bytes).2)
      | some line =>
        if Text.dropEndWhile Text.isLineEnd line = [] then
          if begun then (.complete length, (Text.takeLine bytes).2)
          else readHeader false length (Text.takeLine bytes).2
        else
          readHeader true (lengthAfter length (Text.dropEndWhile Text.isLineEnd line))
            (Text.takeLine bytes).2 := by
  rw [readHeader]
  exact dif_neg nonempty

/-- One line of a header: an empty one ends a header that has begun, any other may tell a
length. -/
theorem readHeader_line {line : List Char} (clean : '\n' ∉ line) (begun : Bool) (length : Nat)
    (bytes : List UInt8) :
    readHeader begun length (Utf8.encode line ++ 10 :: bytes) =
      if Text.dropEndWhile Text.isLineEnd line = [] then
        if begun then (.complete length, bytes) else readHeader false length bytes
      else
        readHeader true (lengthAfter length (Text.dropEndWhile Text.isLineEnd line)) bytes := by
  have cleanBytes : 10 ∉ Utf8.encode line := fun feed => clean (Utf8.feed_mem_encode.1 feed)
  have whole : Utf8.encode line ++ [10] = Utf8.encode (line ++ ['\n']) := by
    rw [Utf8.encode_append]
    rfl
  have kept : Text.dropEndWhile Text.isLineEnd (line ++ ['\n']) =
      Text.dropEndWhile Text.isLineEnd line :=
    Text.dropEndWhile_append_of_pos (by simp [Text.isLineEnd]) line
  rw [readHeader_of_ne_nil (by simp), Text.takeLine_append cleanBytes]
  simp only [whole, Utf8.read?_encode, kept]

theorem readLength_toDigits {n : Nat} (below : n < Text.wordBound) :
    readLength (' ' :: Nat.toDigits 10 n) = n := by
  have trimmed := Text.trim_blank_digits fun c => Text.isDigit_of_mem_toDigits (n := n) (c := c)
  rw [readLength, trimmed]
  split
  · rename_i digits signed
    have digit := Text.isDigit_of_mem_toDigits (n := n) (c := '+') (by rw [signed]; simp)
    cases digit
  · rw [Text.readNumber_toDigits below, Option.getD_some]

/-- The line of a length tells that length, whatever was told before. -/
theorem lengthAfter_toDigits (length : Nat) {n : Nat} (below : n < Text.wordBound) :
    lengthAfter length (lengthField.toList ++ ' ' :: Nat.toDigits 10 n) = n := by
  have lead : Text.dropLead lengthField.toList
      (lengthField.toList ++ ' ' :: Nat.toDigits 10 n) = some (' ' :: Nat.toDigits 10 n) := by
    simp [Text.dropLead]
  rw [lengthAfter, lead]
  exact readLength_toDigits below

/-- The line in which a frame tells its length goes on a line that has begun in front of it; the
header then ends. -/
theorem readHeader_joined {front : List Char} (clean : '\n' ∉ front) (body : List UInt8)
    (begun : Bool) (length : Nat) (rest : List UInt8) :
    readHeader begun length (Utf8.encode front ++ (frame body ++ rest)) =
      (.complete (lengthAfter length
        (front ++ (lengthField.toList ++ ' ' :: Nat.toDigits 10 body.length))), body ++ rest) := by
  let told := lengthField.toList ++ ' ' :: Nat.toDigits 10 body.length
  have ends : ∀ c ∈ told, Text.isLineEnd c = false := by
    intro c member
    rcases List.mem_append.1 member with field | blank | ⟨_, digit⟩
    · have none : lengthField.toList.all (!Text.isLineEnd ·) = true := by decide
      simpa using List.all_eq_true.1 none c field
    · rfl
    · have := Text.isDigit_of_mem_toDigits digit
      rw [Text.isLineEnd, Bool.or_eq_false_iff, beq_eq_false_iff_ne, beq_eq_false_iff_ne]
      constructor <;> rintro rfl <;> cases this
  have cleanLine : '\n' ∉ front ++ told ++ ['\r'] := by
    intro member
    rcases List.mem_append.1 member with inside | behind
    · rcases List.mem_append.1 inside with before | inside
      · exact clean before
      · cases ends _ inside
    · simp at behind
  have kept : Text.dropEndWhile Text.isLineEnd (front ++ told ++ ['\r']) = front ++ told := by
    rw [Text.dropEndWhile_append_of_pos (by simp [Text.isLineEnd]),
      Text.dropEndWhile_append_of_neg (by simp [told]) ends]
  have shape : Utf8.encode front ++ (frame body ++ rest) =
      Utf8.encode (front ++ told ++ ['\r']) ++
        10 :: (Utf8.encode ['\r'] ++ 10 :: (body ++ rest)) := by
    simp only [frame, told, Utf8.encode_append, List.append_assoc]
    rfl
  rw [shape, readHeader_line cleanLine, kept, if_neg (by simp [told]), readHeader_line (by simp),
    if_pos (by decide), if_pos rfl]

/-- The header of a frame tells the number of the bytes behind it, whatever lines of a header have
been read before. -/
theorem readHeader_frame {body : List UInt8} (below : body.length < Text.wordBound) (begun : Bool)
    (length : Nat) (rest : List UInt8) :
    readHeader begun length (frame body ++ rest) = (.complete body.length, body ++ rest) := by
  have alone : '\n' ∉ [] := List.not_mem_nil
  have joined := readHeader_joined alone body begun length rest
  rwa [List.nil_append, lengthAfter_toDigits length below] at joined

/-! ## Frames -/

/-- No bytes are no message. -/
theorem message_of_nothing : (Utf8.read? []).bind Message.ofJson? = none := by
  simp [Utf8.read?, Utf8.read, Utf8.readFrom, Utf8.finish, Message.ofJson?,
    Json.Document.read?, Json.Token.scan?, Json.Token.scanFrom, Json.Reader.run]

/-- A body of the announced length is read alone, and what stands behind it is left. -/
theorem readBody_append {body : List UInt8} (within : body.length ≤ maxLength)
    (rest : List UInt8) :
    (readBody body.length (body ++ rest)).answer = (.ofFrame body, rest) := by
  rcases List.eq_nil_or_concat body with rfl | ⟨before, last, rfl⟩
  · simp [readBody, Reading.answer, Incoming.ofFrame, message_of_nothing]
  · have nonempty : before.concat last ≠ [] := by simp
    have positive : (before.concat last).length ≠ 0 := by simp
    rw [readBody, if_neg positive, if_neg (by omega), if_neg (by simp), List.take_left,
      List.drop_left, Incoming.ofFrame, if_neg nonempty]
    rfl

/-- A frame within the limit is answered by its body alone, and is consumed with no byte more. -/
theorem readMessage_frame {body : List UInt8} (within : body.length ≤ maxLength)
    (rest : List UInt8) :
    readMessage (frame body ++ rest) = (.ofFrame body, rest) := by
  have below : body.length < Text.wordBound := by
    have limit : maxLength < Text.wordBound := by decide
    omega
  rw [readMessage, readFrame, readHeader_frame below]
  exact readBody_append within rest

theorem readMessage_nil : readMessage [] = (.ended, []) := by
  rw [readMessage, readFrame, readHeader, dif_pos rfl]
  rfl

/-- Frames in a row are read one by one, whatever stands behind them. -/
theorem readMessages_frames_append {bodies : List (List UInt8)}
    (within : ∀ body ∈ bodies, body.length ≤ maxLength) (rest : List UInt8) :
    readMessages bodies.length (bodies.flatMap frame ++ rest) =
      (bodies.map Incoming.ofFrame, rest) := by
  induction bodies with
  | nil => rfl
  | cons body bodies ih =>
    have first := within body (by simp)
    have others : ∀ other ∈ bodies, other.length ≤ maxLength := fun other member =>
      within other (by simp [member])
    rw [List.length_cons, readMessages, List.flatMap_cons, List.append_assoc,
      readMessage_frame first, ih others]
    rfl

/-- Frames within the limit are read one by one: each call answers what its own body says, also
where the body is empty, no text, no message or looks like a header itself, and consumes exactly
its own frame; behind the last one the stream is over. -/
theorem readMessages_frames {bodies : List (List UInt8)}
    (within : ∀ body ∈ bodies, body.length ≤ maxLength) :
    (∀ count ≤ bodies.length,
      readMessages count (bodies.flatMap frame) =
        ((bodies.take count).map Incoming.ofFrame, (bodies.drop count).flatMap frame)) ∧
      readMessage (readMessages bodies.length (bodies.flatMap frame)).2 = (.ended, []) := by
  have calls : ∀ count ≤ bodies.length,
      readMessages count (bodies.flatMap frame) =
        ((bodies.take count).map Incoming.ofFrame, (bodies.drop count).flatMap frame) := by
    intro count le
    have taken : ∀ body ∈ bodies.take count, body.length ≤ maxLength := fun body member =>
      within body (List.mem_of_mem_take member)
    have read := readMessages_frames_append taken ((bodies.drop count).flatMap frame)
    rwa [← List.flatMap_append, List.take_append_drop, List.length_take_of_le le] at read
  refine ⟨calls, ?_⟩
  rw [calls bodies.length (Nat.le_refl _), List.drop_length]
  exact readMessage_nil

/-- No bytes, bytes that look like a header, a byte that is no text, and a message. -/
theorem readMessages_frames_mixed :
    let header := Utf8.encode "Content-Length: 1\r\n\r\n".toList
    let reset := Utf8.encode
      "\x7b\"seq\":1,\"type\":\"request\",\"command\":\"reset\"\x7d".toList
    let bodies := [[], header, [0xFF], reset]
    (∀ body ∈ bodies, body.length ≤ maxLength) ∧
      readMessages 4 (bodies.flatMap frame) =
        ([.fault .noLength, .fault .notMessage, .fault .notMessage,
          .message ⟨1, "request", .request "reset" none⟩], []) ∧
      readMessage (readMessages 4 (bodies.flatMap frame)).2 = (.ended, []) := by
  intro header reset bodies
  have within : ∀ body ∈ bodies, body.length ≤ maxLength := by decide
  have answers : (bodies.take 4).map Incoming.ofFrame =
      [.fault .noLength, .fault .notMessage, .fault .notMessage,
        .message ⟨1, "request", .request "reset" none⟩] := by
    subst bodies header reset
    with_unfolding_all rfl
  have read := readMessages_frames within
  have calls := read.1 4 (by decide)
  rw [answers] at calls
  exact ⟨within, calls, read.2⟩

end Tutor
