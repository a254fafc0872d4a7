import Tutor.Proofs.Protocol.Header
import Tutor.Proofs.Server.Serving

/-!
How many rounds a session takes.

The reader of a header and a session are loops: each of their rounds goes on in another state or
finishes. `Ends` counts the rounds of such a loop, and holds of no loop that goes on for ever. A
loop whose rounds leave ever less to read ends (`Ends.exists_le`); so does the reader of a header,
with a line in each round, and a session, with a call of the reader in each (`serve_ends`). Behind a
fault a session goes on, so it matters that no fault leaves all bytes where they were.
-/

namespace Tutor

/-! ## Loops -/

/-- What a round of a loop leads to. -/
inductive Round (σ ρ : Type)
  | goOn (next : σ)
  | finish (result : ρ)

/-- From this state a loop takes so many rounds, and ends with this result. -/
inductive Ends {σ ρ : Type} (round : σ → Round σ ρ) : σ → Nat → ρ → Prop
  | last {state : σ} {result : ρ} : round state = .finish result → Ends round state 1 result
  | more {state next : σ} {count : Nat} {result : ρ} :
    round state = .goOn next → Ends round next count result → Ends round state (count + 1) result

namespace Ends

variable {σ ρ : Type} {round : σ → Round σ ρ}

/-- A loop ends in one way only. -/
theorem unique {state : σ} {count other : Nat} {result found : ρ}
    (ends : Ends round state count result) (again : Ends round state other found) :
    other = count ∧ found = result := by
  induction ends generalizing other with
  | last finishes =>
    cases again with
    | last same =>
      rw [finishes] at same
      cases same
      exact ⟨rfl, rfl⟩
    | more goesOn _ =>
      rw [finishes] at goesOn
      cases goesOn
  | more goesOn _ ih =>
    cases again with
    | last finishes =>
      rw [goesOn] at finishes
      cases finishes
    | more same later =>
      rw [goesOn] at same
      cases same
      obtain ⟨rfl, rfl⟩ := ih later
      exact ⟨rfl, rfl⟩

/-- A loop ends if each round that goes on leaves less to do and does not change what the loop comes
to. -/
theorem exists_le (size : σ → Nat) (result : σ → ρ)
    (goesOn : ∀ state next, round state = .goOn next →
      size next < size state ∧ result next = result state)
    (finishes : ∀ state found, round state = .finish found → found = result state) (state : σ) :
    ∃ count ≤ size state + 1, Ends round state count (result state) := by
  cases leads : round state with
  | finish found =>
    rw [finishes state found leads] at leads
    exact ⟨1, Nat.le_add_left 1 _, .last leads⟩
  | goOn next =>
    obtain ⟨less, same⟩ := goesOn state next leads
    obtain ⟨count, bound, ends⟩ := exists_le size result goesOn finishes next
    rw [same] at ends
    exact ⟨count + 1, by omega, .more leads ends⟩
termination_by size state

end Ends

/-! ## Bytes that are taken -/

/-- At least one byte has been taken off the front. -/
def Takes (bytes rest : List UInt8) : Prop :=
  ∃ taken, taken ≠ [] ∧ bytes = taken ++ rest

theorem takes_iff {bytes rest : List UInt8} :
    Takes bytes rest ↔ rest <:+ bytes ∧ rest.length < bytes.length := by
  constructor
  · rintro ⟨taken, nonempty, rfl⟩
    have := List.length_pos_iff.mpr nonempty
    exact ⟨List.suffix_append taken rest, by rw [List.length_append]; omega⟩
  · rintro ⟨⟨taken, rfl⟩, shorter⟩
    refine ⟨taken, ?_, rfl⟩
    rintro rfl
    exact Nat.lt_irrefl _ shorter

theorem takes_takeLine {bytes : List UInt8} (nonempty : bytes ≠ []) :
    Takes bytes (Text.takeLine bytes).2 :=
  takes_iff.mpr ⟨Text.takeLine_suffix bytes, Text.takeLine_length_lt nonempty⟩

/-- A message or a fault takes at least one byte, whatever the fault is. -/
theorem takes_readMessage {bytes : List UInt8} (goesOn : (readMessage bytes).1.goesOn = true) :
    Takes bytes (readMessage bytes).2 :=
  takes_iff.mpr ⟨readMessage_suffix bytes, readMessage_length_lt goesOn⟩

/-! ## The lines of a header -/

/-- Where the reader of a header stands. -/
structure HeaderReader where
  /-- Whether a line that is not empty has been read. -/
  begun : Bool
  /-- The last length that was told. -/
  length : Nat
  bytes : List UInt8

namespace HeaderReader

/-- Reads one line. -/
def readLine (reader : HeaderReader) : Round HeaderReader (Header × List UInt8) :=
  if reader.bytes = [] then .finish (.ended, [])
  else
    let rest := (Text.takeLine reader.bytes).2
    match Utf8.read? (Text.takeLine reader.bytes).1 with
    | none => .finish (.notText, rest)
    | some line =>
      let line := Text.dropEndWhile Text.isLineEnd line
      if line = [] then
        if reader.begun then .finish (.complete reader.length, rest)
        else .goOn ⟨false, reader.length, rest⟩
      else .goOn ⟨true, lengthAfter reader.length line, rest⟩

/-- The bytes that a line has left. -/
def left : Round HeaderReader (Header × List UInt8) → List UInt8
  | .goOn next => next.bytes
  | .finish (_, rest) => rest

theorem readLine_nil {reader : HeaderReader} (none : reader.bytes = []) :
    reader.readLine = .finish (.ended, []) :=
  if_pos none

theorem left_readLine {reader : HeaderReader} (nonempty : reader.bytes ≠ []) :
    left reader.readLine = (Text.takeLine reader.bytes).2 := by
  unfold readLine
  rw [if_neg nonempty]
  simp only
  split
  · rfl
  split
  · split <;> rfl
  · rfl

/-- What a header amounts to from here on. -/
def read (reader : HeaderReader) : Header × List UInt8 :=
  readHeader reader.begun reader.length reader.bytes

/-- Line by line, a header is read. -/
theorem read_eq (reader : HeaderReader) :
    reader.read =
      match reader.readLine with
      | .goOn next => next.read
      | .finish found => found := by
  by_cases none : reader.bytes = []
  · rw [readLine_nil none, read, none, readHeader_nil]
  · rw [read, readHeader_of_ne_nil none, readLine, if_neg none]
    cases Utf8.read? (Text.takeLine reader.bytes).1 with
    | none => rfl
    | some line =>
      simp only
      split
      · cases reader.begun <;> rfl
      · rfl

theorem readLine_lt {reader next : HeaderReader} (goesOn : reader.readLine = .goOn next) :
    next.bytes.length < reader.bytes.length := by
  have nonempty : reader.bytes ≠ [] := by
    intro none
    rw [readLine_nil none] at goesOn
    cases goesOn
  have left := left_readLine nonempty
  rw [goesOn] at left
  rw [show next.bytes = _ from left]
  exact Text.takeLine_length_lt nonempty

/-- A header is read in at most one round more than there are bytes. -/
theorem exists_ends (reader : HeaderReader) :
    ∃ lines ≤ reader.bytes.length + 1, Ends readLine reader lines reader.read := by
  refine Ends.exists_le (fun reader => reader.bytes.length) read ?_ ?_ reader
  · intro reader next goesOn
    refine ⟨readLine_lt goesOn, ?_⟩
    rw [reader.read_eq, goesOn]
  · intro reader found finishes
    rw [reader.read_eq, finishes]

end HeaderReader

/-! ## The calls of the reader in a session -/

variable {σ : Type}

/-- Where a session stands between two calls of its reader. -/
structure Standing (σ : Type) where
  server : Server σ
  writer : Writer
  bytes : List UInt8
  /-- The messages that were written so far. -/
  written : List Message

namespace Standing

variable (interpreter : Interpreter σ)

/-- Calls the reader once and handles what it finds. -/
def receive (standing : Standing σ) : Round (Standing σ) (Session σ) :=
  let incoming := (readMessage standing.bytes).1
  let rest := (readMessage standing.bytes).2
  let handled := standing.server.hear interpreter standing.writer incoming
  let written := standing.written ++ handled.outgoing
  match handled.writer with
  | none => .finish ⟨written, .writerClosed, rest, handled.server⟩
  | some writer =>
    if incoming.goesOn && !incoming.isDisconnect then .goOn ⟨handled.server, writer, rest, written⟩
    else .finish ⟨written, .ofLast incoming, rest, handled.server⟩

/-- What the session comes to from here on. -/
def session (standing : Standing σ) : Session σ :=
  (Session.serve interpreter standing.server standing.writer standing.bytes).prepend
    standing.written

/-- Call by call, a session is served. -/
theorem session_eq (standing : Standing σ) :
    standing.session interpreter =
      match standing.receive interpreter with
      | .goOn next => next.session interpreter
      | .finish session => session := by
  rw [session, Session.serve_step, receive]
  simp only
  cases (standing.server.hear interpreter standing.writer (readMessage standing.bytes).1).writer with
  | none => rfl
  | some writer =>
    simp only
    split
    · simp [session, Session.prepend]
    · rfl

/-- A session goes on only behind what goes on. -/
theorem receive_bytes {standing next : Standing σ}
    (goesOn : standing.receive interpreter = .goOn next) :
    (readMessage standing.bytes).1.goesOn = true ∧
      next.bytes = (readMessage standing.bytes).2 := by
  simp only [receive] at goesOn
  split at goesOn
  · cases goesOn
  · split at goesOn
    · rename_i more
      cases goesOn
      exact ⟨(Bool.and_eq_true_iff.mp more).1, rfl⟩
    · cases goesOn

/-- A session ends with at most one call of its reader more than there are bytes. -/
theorem exists_ends (standing : Standing σ) :
    ∃ calls ≤ standing.bytes.length + 1,
      Ends (receive interpreter) standing calls (standing.session interpreter) := by
  refine Ends.exists_le (fun standing => standing.bytes.length) (session interpreter) ?_ ?_ standing
  · intro standing next goesOn
    obtain ⟨answered, left⟩ := receive_bytes interpreter goesOn
    refine ⟨?_, ?_⟩
    · rw [left]
      exact readMessage_length_lt answered
    · rw [standing.session_eq, goesOn]
  · intro standing found finishes
    rw [standing.session_eq, finishes]

end Standing

/-- A session ends, whatever bytes it is given, with at most one call of its reader more than there
are bytes. For each message and each fault takes at least one byte, and so does each line of a
header; only where the stream is over no line is left to take, and there its header ends. -/
theorem Session.serve_ends (interpreter : Interpreter σ) (server : Server σ) (writer : Writer)
    (bytes : List UInt8) :
    (∀ found rest, readMessage bytes = (found, rest) → found.goesOn = true → Takes bytes rest) ∧
      (∀ reader : HeaderReader, reader.bytes ≠ [] →
        Takes reader.bytes (HeaderReader.left reader.readLine)) ∧
      (∀ reader : HeaderReader, reader.bytes = [] → reader.readLine = .finish (.ended, [])) ∧
      (∃ lines ≤ bytes.length + 1,
        Ends HeaderReader.readLine ⟨false, 0, bytes⟩ lines (readHeader false 0 bytes)) ∧
      ∃ calls ≤ bytes.length + 1, ∀ count session,
        Ends (Standing.receive interpreter) ⟨server, writer, bytes, []⟩ count session ↔
          count = calls ∧ session = serve interpreter server writer bytes := by
  have headers := HeaderReader.exists_ends ⟨false, 0, bytes⟩
  obtain ⟨calls, bound, ends⟩ :=
    Standing.exists_ends interpreter ⟨server, writer, bytes, []⟩
  refine ⟨?_, ?_, fun _ => HeaderReader.readLine_nil, headers, calls, bound, ?_⟩
  · intro found rest read goesOn
    have takes (goesOn : (readMessage bytes).1.goesOn = true) := takes_readMessage goesOn
    rw [read] at takes
    exact takes goesOn
  · intro reader nonempty
    rw [HeaderReader.left_readLine nonempty]
    exact takes_takeLine nonempty
  · intro count session
    constructor
    · exact ends.unique
    · rintro ⟨rfl, rfl⟩
      exact ends

end Tutor
