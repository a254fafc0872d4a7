import Tutor.Protocol.Message
import Tutor.Text.Blank
import Tutor.Text.Find
import Tutor.Text.Lines
import Tutor.Text.Utf8

/-!
Frames: a message on a stream of bytes, behind a header that tells its length.

A frame is written as `Content-Length: N`, an empty line, and `N` bytes of JSON. A reader passes
over empty lines before a header, takes the last length that a header gives, and refuses a frame
without a length or with one beyond `maxLength`; it has then consumed the header and nothing more.
`readMessage_length_lt` says that every answer short of the end consumes at least one byte.
-/

namespace Tutor

/-! ## Writing -/

/-- What opens the line that tells a length. -/
def lengthField : String := "Content-Length:"

/-- Some bytes behind the header that tells their number. -/
def frame (body : List UInt8) : List UInt8 :=
  Utf8.encode (lengthField.toList ++ ' ' :: Nat.toDigits 10 body.length ++ "\r\n\r\n".toList) ++
    body

/-- A message as a frame. -/
def Message.frame (m : Message) : List UInt8 := Tutor.frame (Utf8.encode m.json)

/-! ## Reading -/

/-- The most bytes that a frame may have. -/
def maxLength : Nat := 16 * 1024 * 1024

/-- Why a frame was refused; the stream goes on behind it. -/
inductive FrameFault
  /-- A line of the header is no text. -/
  | headerNotText
  /-- The header tells no length, or a length of zero. -/
  | noLength
  /-- The header tells a length beyond the limit. -/
  | tooLong (length : Nat)
  /-- The bytes are no message. -/
  | notMessage
  deriving DecidableEq, Repr

/-- The text of a fault. Nothing more is said of bytes that are no message. -/
def FrameFault.message? : FrameFault → Option String
  | headerNotText => some "stream did not contain valid UTF-8"
  | noLength => some "missing Content-Length header"
  | tooLong length =>
    some ("Content-Length " ++ String.ofList (Nat.toDigits 10 length) ++ " exceeds limit")
  | notMessage => none

/-- The text of the error that a stream ends within the bytes of a message. -/
def cutShortMessage : String := "failed to fill whole buffer"

/-- What a reader finds next on a stream. -/
inductive Incoming
  | message (m : Message)
  | fault (fault : FrameFault)
  /-- The stream is over before the end of a header. -/
  | ended
  /-- The stream is over within the bytes of a message. -/
  | cutShort

/-- A length as its line tells it: an ASCII number with an optional plus sign, between blanks. Any
other text tells no length. -/
def readLength (text : List Char) : Nat :=
  let text := Text.trim text
  let digits := match text with
    | '+' :: digits => digits
    | digits => digits
  (Text.readNumber Text.wordBound digits).getD 0

/-- The length after a line of the header, given the one before it. -/
def lengthAfter (length : Nat) (line : List Char) : Nat :=
  match Text.dropLead lengthField.toList line with
  | some value => readLength value
  | none => length

/-- What a header amounts to. -/
inductive Header
  | complete (length : Nat)
  | notText
  | ended
  deriving DecidableEq, Repr

/-- Reads a header line by line up to its empty line. `begun` tells whether a line that is not
empty has been read, and `length` is the last length told. -/
def readHeader (begun : Bool) (length : Nat) (bytes : List UInt8) : Header × List UInt8 :=
  if ended : bytes = [] then (.ended, [])
  else
    let rest := (Text.takeLine bytes).2
    have := Text.takeLine_length_lt ended
    match Utf8.read? (Text.takeLine bytes).1 with
    | none => (.notText, rest)
    | some line =>
      let line := Text.dropEndWhile Text.isLineEnd line
      if line = [] then
        if begun then (.complete length, rest) else readHeader false length rest
      else readHeader true (lengthAfter length line) rest
termination_by bytes.length

/-- Reads the message in the bytes of a frame. -/
def Incoming.ofBody (body : List UInt8) : Incoming :=
  match (Utf8.read? body).bind Message.ofJson? with
  | some m => .message m
  | none => .fault .notMessage

/-- What a call of the reader comes to. -/
structure Reading where
  incoming : Incoming
  /-- The bytes behind it. -/
  rest : List UInt8
  /-- The number of bytes that were set aside for a body. -/
  reserved : Nat

/-- The part of a reading that its caller sees. -/
def Reading.answer (reading : Reading) : Incoming × List UInt8 := (reading.incoming, reading.rest)

/-- Reads the body of a frame whose header tells this length. Nothing is set aside for a body before
its length is accepted. -/
def readBody (length : Nat) (bytes : List UInt8) : Reading :=
  if length = 0 then ⟨.fault .noLength, bytes, 0⟩
  else if maxLength < length then ⟨.fault (.tooLong length), bytes, 0⟩
  else if bytes.length < length then ⟨.cutShort, [], length⟩
  else ⟨.ofBody (bytes.take length), bytes.drop length, length⟩

/-- Reads a frame: what it holds, the bytes behind it, and what was set aside for it. -/
def readFrame (bytes : List UInt8) : Reading :=
  match readHeader false 0 bytes with
  | (.ended, rest) => ⟨.ended, rest, 0⟩
  | (.notText, rest) => ⟨.fault .headerNotText, rest, 0⟩
  | (.complete length, rest) => readBody length rest

/-- Reads a frame: what it holds, and the bytes behind it. -/
def readMessage (bytes : List UInt8) : Incoming × List UInt8 := (readFrame bytes).answer

/-- Whether a reader may go on behind what it found. -/
def Incoming.goesOn : Incoming → Bool
  | message _ | fault _ => true
  | ended | cutShort => false

/-! ## Progress -/

/-- Reading a header never gives bytes back. -/
theorem readHeader_length_le (begun : Bool) (length : Nat) (bytes : List UInt8) :
    (readHeader begun length bytes).2.length ≤ bytes.length := by
  fun_induction readHeader begun length bytes <;> grind

/-- A header that does not run into the end of the stream takes at least one byte. -/
theorem readHeader_length_lt {begun : Bool} {length : Nat} {bytes : List UInt8}
    (notEnded : (readHeader begun length bytes).1 ≠ .ended) :
    (readHeader begun length bytes).2.length < bytes.length := by
  fun_induction readHeader begun length bytes <;> grind

/-- Reading a body never gives bytes back. -/
theorem readBody_length_le (length : Nat) (bytes : List UInt8) :
    (readBody length bytes).rest.length ≤ bytes.length := by
  unfold readBody
  grind

/-- Every message and every fault takes at least one byte. -/
theorem readMessage_length_lt {bytes : List UInt8}
    (goesOn : (readMessage bytes).1.goesOn = true) :
    (readMessage bytes).2.length < bytes.length := by
  have shorter := @readHeader_length_lt false 0 bytes
  rw [readMessage, readFrame] at goesOn ⊢
  split
  case h_1 header => simp [header, Reading.answer, Incoming.goesOn] at goesOn
  case h_2 header => simpa [header, Reading.answer] using shorter
  case h_3 length rest header =>
    have := readBody_length_le length rest
    simp only [header] at shorter
    exact Nat.lt_of_le_of_lt this (shorter nofun)

/-! ## The whole stream -/

/-- What a reader finds on a stream, up to the end of the stream or a message that is cut short. -/
def incomings (bytes : List UInt8) : List Incoming :=
  if goesOn : (readMessage bytes).1.goesOn then
    have := readMessage_length_lt goesOn
    (readMessage bytes).1 :: incomings (readMessage bytes).2
  else [(readMessage bytes).1]
termination_by bytes.length

end Tutor
