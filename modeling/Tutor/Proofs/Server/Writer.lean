import Tutor.Proofs.Server.Work

/-!
Sessions whose writer fails.

All that a server writes is numbered in one row, events and responses alike (`Server.outputs_seq`).
A writer with room for some messages takes the first of those that a writer without a limit takes;
the session ends at the first message for which there is no room, and a limit that is not reached
makes no difference (`Session.serve_limited`).
-/

namespace Tutor

variable {σ : Type}

/-! ## Numbers -/

theorem numberMessages_seq (last : Nat) (contents : List MessageContent) :
    (numberMessages last contents).map Message.seq = List.range' (last + 1) contents.length := by
  rw [numberMessages, List.map_map]
  exact List.zipIdx_map_snd (last + 1) contents

namespace Server

variable (interpreter : Interpreter σ) (server : Server σ)

/-- What is written on a thing that was found has the numbers that come next, and the server keeps
the last of them. -/
theorem receive_seq (incoming : Incoming) :
    let handled := server.receive interpreter incoming
    handled.outgoing.map Message.seq =
        List.range' (server.lastSeq + 1) handled.outgoing.length ∧
      handled.server.lastSeq = server.lastSeq + handled.outgoing.length := by
  cases isRequest : incoming.request? with
  | none =>
    rw [receive_of_other interpreter server isRequest]
    exact ⟨rfl, rfl⟩
  | some request =>
    rw [receive_of_request interpreter server isRequest]
    simp only [numberMessages_seq, numberMessages_length, and_self]

/-- Everything that a server writes is numbered without a gap. -/
theorem outputs_seq (found : List Incoming) :
    let written := (server.outputs interpreter found).flatten
    written.map Message.seq = List.range' (server.lastSeq + 1) written.length := by
  induction found generalizing server with
  | nil => rfl
  | cons incoming found ih =>
    obtain ⟨first, last⟩ := server.receive_seq interpreter incoming
    have later := ih (server.receive interpreter incoming).server
    simp only [last] at later
    simp only [outputs, List.flatten_cons, List.map_append, List.length_append, first, later]
    rw [Nat.add_right_comm, List.range'_append_1]

end Server

/-! ## Messages one by one -/

section Sending

variable {room : Nat} {contents : List MessageContent}

/-- A writer with room for all messages is sent all, and has less room behind them. -/
theorem sendAll_of_le (last : Nat) (fits : contents.length ≤ room) :
    sendAll last (some room) contents =
      ⟨numberMessages last contents, last + contents.length,
        some (some (room - contents.length))⟩ := by
  induction contents generalizing last room with
  | nil => rfl
  | cons content contents ih =>
    cases room with
    | zero => cases fits
    | succ room =>
      have later := ih (last + 1) (Nat.le_of_succ_le_succ fits)
      simp only [sendAll, Writer.next?, later, numberMessages_cons, List.length_cons,
        Nat.add_sub_add_right]
      rw [Nat.add_assoc, Nat.add_comm 1]

/-- A writer that runs out of room refuses the first message behind it, which takes a number all the
same. -/
theorem sendAll_of_lt (last : Nat) (full : room < contents.length) :
    sendAll last (some room) contents =
      ⟨(numberMessages last contents).take room, last + room + 1, none⟩ := by
  induction contents generalizing last room with
  | nil => cases full
  | cons content contents ih =>
    cases room with
    | zero => rfl
    | succ room =>
      have later := ih (last + 1) (Nat.lt_of_succ_lt_succ full)
      simp only [sendAll, Writer.next?, later, numberMessages_cons, List.take_succ_cons]
      rw [Nat.add_assoc last, Nat.add_comm 1]

end Sending

namespace Server

variable (interpreter : Interpreter σ) (server : Server σ) {room : Nat} {incoming : Incoming}

/-- With room for all that is written on a thing that was found, only the writer differs. -/
theorem hear_of_le (fits : (server.receive interpreter incoming).outgoing.length ≤ room) :
    let handled := server.receive interpreter incoming
    server.hear interpreter (some room) incoming =
      { handled with writer := some (some (room - handled.outgoing.length)) } := by
  cases isRequest : incoming.request? with
  | none =>
    rw [receive_of_other interpreter server isRequest, hear_of_other _ _ _ isRequest]
    rfl
  | some request =>
    rw [receive_of_request interpreter server isRequest] at fits ⊢
    simp only [numberMessages_length] at fits ⊢
    rw [hear_of_request _ _ _ isRequest]
    simp only [sendAll_of_le server.lastSeq fits]

/-- Without it the coordinator has done its work, and the messages for which there is room are
written. -/
theorem hear_of_lt (full : room < (server.receive interpreter incoming).outgoing.length) :
    let handled := server.receive interpreter incoming
    server.hear interpreter (some room) incoming =
      ⟨handled.outgoing.take room, ⟨server.lastSeq + room + 1, handled.server.coordinator⟩, none,
        handled.goesOn⟩ := by
  cases isRequest : incoming.request? with
  | none =>
    rw [receive_of_other interpreter server isRequest] at full
    cases full
  | some request =>
    rw [receive_of_request interpreter server isRequest] at full ⊢
    simp only [numberMessages_length] at full ⊢
    rw [hear_of_request _ _ _ isRequest]
    simp only [sendAll_of_lt server.lastSeq full]

end Server

/-! ## Sessions -/

namespace Session

/-- What becomes of a session if its writer has room for just this many messages: the same, or an
end at the first message without room, which has taken the number `refused`. -/
structure Limited (room refused : Nat) (whole limited : Session σ) : Prop where
  written : limited.written = whole.written.take room
  ending : room < whole.written.length ∧ limited.ending = .writerClosed ∧
      limited.server.lastSeq = refused ∨
    whole.written.length ≤ room ∧ limited = whole

namespace Limited

variable {room refused : Nat} {whole limited : Session σ} {messages : List Message}

theorem of_le (fits : whole.written.length ≤ room) : Limited room refused whole whole :=
  ⟨(List.take_of_length_le fits).symm, .inr ⟨fits, rfl⟩⟩

/-- Messages in front that fit take away their part of the room. -/
theorem prepend (fits : messages.length ≤ room)
    (later : Limited (room - messages.length) refused whole limited) :
    Limited room refused (whole.prepend messages) (limited.prepend messages) := by
  have length : (whole.prepend messages).written.length =
      messages.length + whole.written.length :=
    List.length_append
  constructor
  · simp only [Session.prepend, List.take_append, List.take_of_length_le fits, later.written]
  · rw [length]
    rcases later.ending with ⟨less, closed⟩ | ⟨enough, same⟩
    · exact .inl ⟨by omega, closed⟩
    · exact .inr ⟨by omega, congrArg _ same⟩

end Limited

/-- A writer without room for all that is written on the next thing that is found ends the session
there. -/
theorem serve_full (interpreter : Interpreter σ) (server : Server σ) {room : Nat}
    {bytes : List UInt8}
    (full : room < (server.receive interpreter (readMessage bytes).1).outgoing.length) :
    let handled := server.receive interpreter (readMessage bytes).1
    serve interpreter server (some room) bytes =
      ⟨handled.outgoing.take room, .writerClosed, (readMessage bytes).2,
        ⟨server.lastSeq + room + 1, handled.server.coordinator⟩⟩ := by
  rw [serve_step]
  simp only [Server.hear_of_lt interpreter server full]

/-- A writer with room for all that is written on the next thing that is found takes it, and the
session goes on with less room. -/
theorem serve_fits (interpreter : Interpreter σ) (server : Server σ) {room : Nat}
    {bytes : List UInt8}
    (fits : (server.receive interpreter (readMessage bytes).1).outgoing.length ≤ room) :
    let incoming := (readMessage bytes).1
    let rest := (readMessage bytes).2
    let handled := server.receive interpreter incoming
    serve interpreter server (some room) bytes =
      if incoming.goesOn && !incoming.isDisconnect then
        (serve interpreter handled.server (some (room - handled.outgoing.length)) rest).prepend
          handled.outgoing
      else ⟨handled.outgoing, .ofLast incoming, rest, handled.server⟩ := by
  rw [serve_step]
  simp only [Server.hear_of_le interpreter server fits]

/-- All that is written on the next thing that is found stands in front of what a session writes. -/
theorem serve_written (interpreter : Interpreter σ) (server : Server σ) (bytes : List UInt8) :
    (server.receive interpreter (readMessage bytes).1).outgoing <+:
      (serve interpreter server none bytes).written := by
  rcases goesOn_or_stop (readMessage bytes).1 with ⟨goesOn, other⟩ | stop
  · rw [serve_of_goesOn interpreter server goesOn other]
    exact List.prefix_append _ _
  · simp only [serve_of_stop interpreter server stop, List.prefix_rfl]

theorem serve_room (interpreter : Interpreter σ) (server : Server σ) (room : Nat)
    (bytes : List UInt8) :
    Limited room (server.lastSeq + room + 1) (serve interpreter server none bytes)
      (serve interpreter server (some room) bytes) := by
  let handled := server.receive interpreter (readMessage bytes).1
  by_cases full : room < handled.outgoing.length
  · obtain ⟨later, written⟩ := serve_written interpreter server bytes
    have less : room < (serve interpreter server none bytes).written.length := by
      rw [← written, List.length_append]
      exact Nat.lt_add_right _ full
    rw [serve_full interpreter server full]
    refine ⟨?_, .inl ⟨less, rfl, rfl⟩⟩
    rw [← written, List.take_append_of_le_length full.le]
  have fits : handled.outgoing.length ≤ room := Nat.not_lt.1 full
  rw [serve_fits interpreter server fits]
  rcases goesOn_or_stop (readMessage bytes).1 with ⟨goesOn, other⟩ | stop
  · have shorter := readMessage_length_lt goesOn
    have later := serve_room interpreter handled.server (room - handled.outgoing.length)
      (readMessage bytes).2
    have refused : handled.server.lastSeq + (room - handled.outgoing.length) + 1 =
        server.lastSeq + room + 1 := by
      have last : handled.server.lastSeq = server.lastSeq + handled.outgoing.length :=
        (server.receive_seq interpreter (readMessage bytes).1).2
      omega
    rw [refused] at later
    rw [serve_of_goesOn interpreter server goesOn other, if_pos (by rw [goesOn, other]; rfl)]
    exact .prepend fits later
  · rw [serve_of_stop interpreter server stop, if_neg]
    · exact .of_le fits
    · rcases stop with disconnects | halts
      · simp [disconnects]
      · simp [halts]
termination_by bytes.length

/-- All that a session writes is numbered from 1 on without a gap. With a writer that fails after
some messages the session writes the same up to there; it ends with the failure exactly where there
would have been more, with the next number taken by the message that was refused, and else is the
session that it would have been. -/
theorem serve_limited (interpreter : Interpreter σ) (state : σ) (room : Nat)
    (bytes : List UInt8) :
    let whole := serve interpreter (.new state) none bytes
    let limited := serve interpreter (.new state) (some room) bytes
    limited.written = whole.written.take room ∧
      limited.written.map Message.seq = List.range' 1 (min room whole.written.length) ∧
      (limited.ending = .writerClosed ↔ room < whole.written.length) ∧
      (limited.ending = .writerClosed ∧ limited.server.lastSeq = room + 1 ∨ limited = whole) := by
  intro whole limited
  obtain ⟨before, last, rest, -, same⟩ := serve_eq interpreter (.new state) bytes
  have limits : Limited room (0 + room + 1) whole limited :=
    serve_room interpreter (.new state) room bytes
  rw [Nat.zero_add] at limits
  have numbers : whole.written.map Message.seq = List.range' 1 whole.written.length := by
    rw [show whole = _ from same]
    exact (Server.new state).outputs_seq interpreter (before ++ [last])
  have writable : whole.ending ≠ .writerClosed := by
    rw [show whole = _ from same]
    cases last <;> nofun
  refine ⟨limits.written, ?_, ?_⟩
  · rw [limits.written, List.map_take, numbers]
    exact List.ext_getElem (by simp) (by simp)
  · rcases limits.ending with ⟨less, closed⟩ | ⟨enough, equal⟩
    · exact ⟨iff_of_true closed.1 less, .inl closed⟩
    · rw [equal]
      exact ⟨iff_of_false writable (Nat.not_lt.2 enough), .inr rfl⟩

end Session

end Tutor
