import Mathlib.Data.List.Forall2
import Tutor.Proofs.Protocol.Stream
import Tutor.Proofs.Server.Arguments

/-!
A session, call by call of its reader.

A session reads up to the first disconnect or the end of the stream, and writes on each thing that
it reads what `Server.receive` says (`serve_eq`). On a request that is status events and then one
response to it; on anything else it is nothing.
-/

namespace Tutor

variable {σ : Type}

/-! ## Requests and responses -/

/-- A request: its number, its command, and its arguments if it has any. -/
structure Request where
  seq : Nat
  command : String
  arguments : Option Json.Value

/-- The request that was found, if it is one. -/
def Incoming.request? : Incoming → Option Request
  | .message ⟨seq, _, .request command arguments⟩ => some ⟨seq, command, arguments⟩
  | _ => none

/-- Whether a request to end the session was found. -/
def Incoming.isDisconnect (incoming : Incoming) : Bool :=
  match incoming.request? with
  | some request => request.command == "disconnect"
  | none => false

/-- A response: to which request, whether it succeeded, and with what. -/
structure Response where
  requestSeq : Nat
  success : Bool
  command : String
  message : Option String
  body : Option Json.Value

/-- The response that a message is, if it is one. -/
def Message.response? : Message → Option Response
  | ⟨_, _, .response requestSeq success command message body⟩ =>
    some ⟨requestSeq, success, command, message, body⟩
  | _ => none

/-- A response answers a request: it names it, repeats its command, and fails exactly where the
command is unknown or its arguments are refused. -/
structure Answers (request : Request) (response : Response) : Prop where
  requestSeq : response.requestSeq = request.seq
  command : response.command = request.command
  success : response.success = false ↔
    request.command ∉ commands ∨
      ArgumentsRefused request.command (request.arguments.getD .null)

/-- What belongs to a thing that was found: to a request, changes of the status and then one
response that answers it; to anything else, nothing. -/
inductive Answered : Incoming → List Message → Prop
  | request {incoming : Incoming} {request : Request} {events : List Message} {m : Message}
    {response : Response} :
    incoming.request? = some request →
    (∀ event ∈ events, ∃ status, event.content = Status.event status) →
    m.response? = some response → Answers request response →
    Answered incoming (events ++ [m])
  | other {incoming : Incoming} : incoming.request? = none → Answered incoming []

/-- The responses among what belongs to things that were found answer the requests among these,
one each and in order. -/
theorem Answered.responses {found : List Incoming} {outputs : List (List Message)}
    (answered : List.Forall₂ Answered found outputs) :
    List.Forall₂ Answers (found.filterMap Incoming.request?)
      (outputs.flatten.filterMap Message.response?) := by
  induction answered with
  | nil => exact .nil
  | cons first _ ih =>
    rw [List.flatten_cons, List.filterMap_append]
    cases first with
    | @request request events m response isRequest onlyEvents isResponse answers =>
      have silent : events.filterMap Message.response? = [] := by
        rw [List.filterMap_eq_nil_iff]
        rintro ⟨seq, type, content⟩ member
        obtain ⟨status, rfl⟩ := onlyEvents _ member
        rfl
      rw [List.filterMap_cons_some isRequest, List.filterMap_append, silent, List.nil_append,
        List.filterMap_cons_some isResponse]
      exact .cons answers ih
    | other isNone =>
      rw [List.filterMap_cons_none isNone]
      exact ih

/-! ## Numbers -/

/-- Messages with these contents, numbered behind `last`. -/
def numberMessages (last : Nat) (contents : List MessageContent) : List Message :=
  (contents.zipIdx (last + 1)).map fun (content, seq) => ⟨seq, content.typeName, content⟩

theorem numberMessages_cons (last : Nat) (content : MessageContent)
    (contents : List MessageContent) :
    numberMessages last (content :: contents) =
      ⟨last + 1, content.typeName, content⟩ :: numberMessages (last + 1) contents := rfl

theorem numberMessages_length (last : Nat) (contents : List MessageContent) :
    (numberMessages last contents).length = contents.length := by
  rw [numberMessages, List.length_map, List.length_zipIdx]

theorem numberMessages_concat (last : Nat) (contents : List MessageContent)
    (content : MessageContent) :
    numberMessages last (contents ++ [content]) =
      numberMessages last contents ++
        [⟨last + contents.length + 1, content.typeName, content⟩] := by
  simp [numberMessages, List.zipIdx_append]
  omega

theorem content_mem_of_mem_numberMessages {last : Nat} {contents : List MessageContent}
    {m : Message} (member : m ∈ numberMessages last contents) : m.content ∈ contents := by
  obtain ⟨⟨content, seq⟩, numbered, rfl⟩ := List.mem_map.1 member
  exact List.fst_mem_of_mem_zipIdx numbered

/-- A writer that takes all is sent every message, numbered in a row. -/
theorem sendAll_unlimited (last : Nat) (contents : List MessageContent) :
    sendAll last none contents =
      ⟨numberMessages last contents, last + contents.length, some none⟩ := by
  induction contents generalizing last with
  | nil => rfl
  | cons content contents ih =>
    simp only [sendAll, Writer.next?, ih, numberMessages_cons, List.length_cons]
    rw [Nat.add_assoc, Nat.add_comm 1]

/-! ## One step of a server -/

namespace Server

/-- What a server with this writer does on one thing that its reader finds: faults are passed
over. -/
def hear (interpreter : Interpreter σ) (server : Server σ) (writer : Writer) :
    Incoming → Handled σ
  | .message m => server.handle interpreter writer m
  | _ => ⟨[], server, some writer, true⟩

/-- What a server whose writer takes all does on one thing that its reader finds. -/
def receive (interpreter : Interpreter σ) (server : Server σ) (incoming : Incoming) : Handled σ :=
  server.hear interpreter none incoming

/-- What a server writes on each of the things that its reader finds, one after another. -/
def outputs (interpreter : Interpreter σ) : Server σ → List Incoming → List (List Message)
  | _, [] => []
  | server, incoming :: found =>
    let handled := server.receive interpreter incoming
    handled.outgoing :: handled.server.outputs interpreter found

/-- A server behind the things that its reader finds, one after another. -/
def after (interpreter : Interpreter σ) (server : Server σ) (found : List Incoming) : Server σ :=
  found.foldl (fun server incoming => (server.receive interpreter incoming).server) server

variable (interpreter : Interpreter σ) (server : Server σ) (writer : Writer)

/-- On a request the messages of its reply are sent, one after another. -/
theorem hear_of_request {incoming : Incoming} {request : Request}
    (isRequest : incoming.request? = some request) :
    server.hear interpreter writer incoming =
      let reply := respond interpreter server.coordinator request.command request.arguments
      let sending := sendAll server.lastSeq writer (reply.contents request.seq request.command)
      ⟨sending.written, ⟨sending.lastSeq, reply.coordinator⟩, sending.writer,
        request.command != "disconnect"⟩ := by
  match incoming, isRequest with
  | .message ⟨seq, type, .request command arguments⟩, isRequest =>
    cases isRequest
    rfl

/-- Nothing is sent on anything else. -/
theorem hear_of_other {incoming : Incoming} (isNone : incoming.request? = none) :
    server.hear interpreter writer incoming = ⟨[], server, some writer, true⟩ := by
  match incoming, isNone with
  | .message ⟨_, _, .response ..⟩, _ => rfl
  | .message ⟨_, _, .event ..⟩, _ => rfl
  | .fault _, _ => rfl
  | .ended, _ => rfl
  | .cutShort, _ => rfl

theorem receive_of_request {incoming : Incoming} {request : Request}
    (isRequest : incoming.request? = some request) :
    server.receive interpreter incoming =
      let reply := respond interpreter server.coordinator request.command request.arguments
      let contents := reply.contents request.seq request.command
      ⟨numberMessages server.lastSeq contents,
        ⟨server.lastSeq + contents.length, reply.coordinator⟩, some none,
        request.command != "disconnect"⟩ := by
  rw [receive, hear_of_request interpreter server none isRequest]
  simp only [sendAll_unlimited]

theorem receive_of_other {incoming : Incoming} (isNone : incoming.request? = none) :
    server.receive interpreter incoming = ⟨[], server, some none, true⟩ :=
  hear_of_other interpreter server none isNone

/-- A writer that takes all refuses nothing. -/
theorem receive_writer (incoming : Incoming) :
    (server.receive interpreter incoming).writer = some none := by
  cases isRequest : incoming.request? with
  | none => rw [receive_of_other interpreter server isRequest]
  | some request => rw [receive_of_request interpreter server isRequest]

theorem receive_answered (incoming : Incoming) :
    Answered incoming (server.receive interpreter incoming).outgoing := by
  cases isRequest : incoming.request? with
  | none =>
    rw [receive_of_other interpreter server isRequest]
    exact .other isRequest
  | some request =>
    rw [receive_of_request interpreter server isRequest]
    simp only [Reply.contents, numberMessages_concat]
    refine .request isRequest ?_ rfl ⟨rfl, rfl, respond_success⟩
    intro event member
    obtain ⟨status, -, same⟩ := List.mem_map.1 (content_mem_of_mem_numberMessages member)
    exact ⟨status, same.symm⟩

theorem outputs_answered (found : List Incoming) :
    List.Forall₂ Answered found (server.outputs interpreter found) := by
  induction found generalizing server with
  | nil => exact .nil
  | cons incoming found ih => exact .cons (server.receive_answered interpreter incoming) (ih _)

/-- Only a disconnect ends a session from within. -/
theorem hear_goesOn (incoming : Incoming) :
    (server.hear interpreter writer incoming).goesOn = !incoming.isDisconnect := by
  unfold Incoming.isDisconnect
  cases isRequest : incoming.request? with
  | none =>
    rw [hear_of_other interpreter server writer isRequest]
    rfl
  | some request =>
    rw [hear_of_request interpreter server writer isRequest]
    rfl

end Server

/-! ## The session -/

/-- How a session ends whose reader finds this last. -/
def SessionEnd.ofLast : Incoming → SessionEnd
  | .cutShort => .cutShort
  | _ => .ok

namespace Session

theorem prepend_nil (session : Session σ) : session.prepend [] = session := rfl

/-- One call of the reader: what it finds is handled, and the session goes on unless this was the
last thing to read or the writer has refused a message. -/
theorem serve_step (interpreter : Interpreter σ) (server : Server σ) (writer : Writer)
    (bytes : List UInt8) :
    serve interpreter server writer bytes =
      let incoming := (readMessage bytes).1
      let rest := (readMessage bytes).2
      let handled := server.hear interpreter writer incoming
      match handled.writer with
      | none => ⟨handled.outgoing, .writerClosed, rest, handled.server⟩
      | some writer =>
        if incoming.goesOn && !incoming.isDisconnect then
          (serve interpreter handled.server writer rest).prepend handled.outgoing
        else ⟨handled.outgoing, .ofLast incoming, rest, handled.server⟩ := by
  rw [serve]
  split
  case h_1 found _ => simp [found, Server.hear, Incoming.goesOn, SessionEnd.ofLast]
  case h_2 found _ => simp [found, Server.hear, Incoming.goesOn, SessionEnd.ofLast]
  case h_3 fault _ found _ =>
    simp [found, Server.hear, Incoming.goesOn, prepend_nil, Incoming.isDisconnect,
      Incoming.request?]
  case h_4 m _ found _ =>
    simp only [found, ← Server.hear_goesOn interpreter server writer, Incoming.goesOn,
      Bool.true_and, SessionEnd.ofLast]
    rfl

section Unlimited

variable (interpreter : Interpreter σ) (server : Server σ) {bytes : List UInt8}

/-- One call of the reader in a session whose writer takes all. -/
theorem serve_unlimited (bytes : List UInt8) :
    serve interpreter server none bytes =
      let incoming := (readMessage bytes).1
      let rest := (readMessage bytes).2
      let handled := server.receive interpreter incoming
      if incoming.goesOn && !incoming.isDisconnect then
        (serve interpreter handled.server none rest).prepend handled.outgoing
      else ⟨handled.outgoing, .ofLast incoming, rest, handled.server⟩ := by
  have takes := server.receive_writer interpreter (readMessage bytes).1
  rw [Server.receive] at takes
  rw [serve_step]
  simp only [takes, Server.receive]

/-- A writer that takes all goes on behind what goes on and is no disconnect. -/
theorem serve_of_goesOn (goesOn : (readMessage bytes).1.goesOn = true)
    (other : (readMessage bytes).1.isDisconnect = false) :
    serve interpreter server none bytes =
      (serve interpreter (server.receive interpreter (readMessage bytes).1).server none
        (readMessage bytes).2).prepend
          (server.receive interpreter (readMessage bytes).1).outgoing := by
  rw [serve_unlimited]
  simp only [goesOn, other, Bool.not_false, Bool.and_true, if_true]

/-- A disconnect or the end of the stream is the last thing of a session. -/
theorem serve_of_stop
    (stop : (readMessage bytes).1.isDisconnect = true ∨ (readMessage bytes).1.goesOn = false) :
    serve interpreter server none bytes =
      ⟨(server.receive interpreter (readMessage bytes).1).outgoing, .ofLast (readMessage bytes).1,
        (readMessage bytes).2, (server.receive interpreter (readMessage bytes).1).server⟩ := by
  rw [serve_unlimited]
  rcases stop with disconnects | halts
  · simp [disconnects]
  · simp [halts]

end Unlimited

/-- What was found goes on the session, or is its last. -/
theorem goesOn_or_stop (incoming : Incoming) :
    incoming.goesOn = true ∧ incoming.isDisconnect = false ∨
      (incoming.isDisconnect = true ∨ incoming.goesOn = false) := by
  cases incoming.goesOn <;> cases incoming.isDisconnect <;> simp

/-- The calls of the reader in a session, up to the last: everything before goes on and is no
disconnect. -/
structure Calls (bytes : List UInt8) (before : List Incoming) (last : Incoming)
    (rest : List UInt8) : Prop where
  read : readMessages (before.length + 1) bytes = (before ++ [last], rest)
  goOn : ∀ incoming ∈ before, incoming.goesOn = true ∧ incoming.isDisconnect = false
  stop : last.isDisconnect = true ∨ last.goesOn = false

theorem Calls.last {bytes : List UInt8}
    (stop : (readMessage bytes).1.isDisconnect = true ∨ (readMessage bytes).1.goesOn = false) :
    Calls bytes [] (readMessage bytes).1 (readMessage bytes).2 :=
  ⟨rfl, nofun, stop⟩

theorem Calls.more {bytes rest : List UInt8} {before : List Incoming} {last : Incoming}
    (goesOn : (readMessage bytes).1.goesOn = true)
    (other : (readMessage bytes).1.isDisconnect = false)
    (calls : Calls (readMessage bytes).2 before last rest) :
    Calls bytes ((readMessage bytes).1 :: before) last rest := by
  refine ⟨?_, ?_, calls.stop⟩
  · rw [List.length_cons, readMessages, calls.read]
    rfl
  · intro incoming member
    rcases List.mem_cons.1 member with rfl | member
    · exact ⟨goesOn, other⟩
    · exact calls.goOn incoming member

/-- A session whose writer takes all reads up to the first disconnect or the end of the stream,
writes what each thing that it reads leads to, and leaves the rest unread. -/
theorem serve_eq (interpreter : Interpreter σ) (server : Server σ) (bytes : List UInt8) :
    ∃ before last rest, Calls bytes before last rest ∧
      serve interpreter server none bytes =
        ⟨(server.outputs interpreter (before ++ [last])).flatten, .ofLast last, rest,
          server.after interpreter (before ++ [last])⟩ := by
  rcases goesOn_or_stop (readMessage bytes).1 with ⟨goesOn, other⟩ | stop
  · have shorter := readMessage_length_lt goesOn
    obtain ⟨before, last, rest, calls, same⟩ :=
      serve_eq interpreter (server.receive interpreter (readMessage bytes).1).server
        (readMessage bytes).2
    refine ⟨_, last, rest, calls.more goesOn other, ?_⟩
    rw [serve_of_goesOn interpreter server goesOn other, same]
    rfl
  · refine ⟨[], _, _, .last stop, ?_⟩
    rw [serve_of_stop interpreter server stop]
    simp [Server.outputs, Server.after]
termination_by bytes.length

/-- Every request up to the first disconnect gets exactly one response, in order; it names its
request and fails exactly where the command is unknown or the arguments are refused. Nothing is
written on messages that are no requests and on faults, and nothing is read or written behind a
disconnect. -/
theorem serve_answers (interpreter : Interpreter σ) (server : Server σ) (bytes : List UInt8) :
    let session := serve interpreter server none bytes
    ∃ before last, Calls bytes before last session.unread ∧
      session.ending = .ofLast last ∧
      session.written = (server.outputs interpreter (before ++ [last])).flatten ∧
      List.Forall₂ Answered (before ++ [last])
        (server.outputs interpreter (before ++ [last])) ∧
      List.Forall₂ Answers ((before ++ [last]).filterMap Incoming.request?)
        (session.written.filterMap Message.response?) := by
  intro session
  obtain ⟨before, last, rest, calls, same⟩ := serve_eq interpreter server bytes
  have answered := server.outputs_answered interpreter (before ++ [last])
  have written : session.written = (server.outputs interpreter (before ++ [last])).flatten :=
    congrArg Session.written same
  have unread : session.unread = rest := congrArg Session.unread same
  refine ⟨before, last, unread ▸ calls, congrArg Session.ending same, written, answered, ?_⟩
  rw [written]
  exact Answered.responses answered

end Session

end Tutor
