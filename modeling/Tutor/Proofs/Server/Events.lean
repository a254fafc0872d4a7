import Tutor.Proofs.Json.Fields
import Tutor.Proofs.Server.Work

/-!
The status events of a session.

Between two requests nothing waits to be written (`Server.after_settled`): a request that is work
takes all that its call has published, and any other publishes nothing. So the events in front of a
response are the statuses through which the coordinator passed on this request
(`Server.events_are_published`), as a client reads them off the messages (`Message.status?`).
-/

namespace Tutor

open Json

variable {σ : Type}

/-- The statuses that a coordinator publishes on a request. -/
def Request.published (interpreter : Interpreter σ) (c : Coordinator σ) (request : Request) :
    List Status :=
  match request.call? with
  | some call => c.phases interpreter call
  | none => []

/-- Everything that a server writes on messages, one after another. -/
def Server.written (interpreter : Interpreter σ) (server : Server σ) (messages : List Message) :
    List Message :=
  (server.outputs interpreter (messages.map .message)).flatten

/-! ## What a client reads -/

/-- The status that goes by this name and with this text. -/
def Status.spelled? : String → String → Option Status
  | "not-ready", "Loading Python runtime..." => some notReady
  | "ready", "Python runtime ready." => some ready
  | "unavailable", "Python runtime not available." => some unavailable
  | "preparing", "Preparing sandbox..." => some preparing
  | "running", "Running code in sandbox..." => some running
  | "finished", "Execution finished." => some finished
  | "finished-with-errors", "Execution finished with errors." => some finishedWithErrors
  | "failed", "Execution failed." => some failed
  | _, _ => none

/-- The status that a message tells of, if it is an event that tells of one and of nothing else. -/
def Message.status? : Message → Option Status
  | ⟨_, "event", .event "status"
      (some (.object [("message", .string text), ("status", .string name)]))⟩ =>
    Status.spelled? name text
  | _ => none

theorem Status.spelled?_name_message (status : Status) :
    spelled? status.name status.message = some status := by
  cases status <;> rfl

/-- The fields of a status event are written in their order. -/
theorem Status.event_fields (status : Status) :
    status.event = .event "status" (some (.object [
      ("message", .string status.message), ("status", .string status.name)])) := by
  have before : "message" < "status" := by decide +kernel
  have different : "message" ≠ "status" := before.ne
  rw [event, Value.ofFields, sortFields, List.foldl_cons, List.foldl_cons, insertField,
    insertField, if_neg different, if_pos before]
  rfl

/-- From the events for some statuses a client reads just these, whatever their numbers. -/
theorem numberMessages_status? (last : Nat) (statuses : List Status) :
    (numberMessages last (statuses.map Status.event)).map Message.status? =
      statuses.map some := by
  induction statuses generalizing last with
  | nil => rfl
  | cons status statuses ih =>
    have read : Message.status? ⟨last + 1, "event", status.event⟩ = some status := by
      rw [status.event_fields]
      exact status.spelled?_name_message
    rw [List.map_cons, numberMessages_cons, List.map_cons, List.map_cons, ih]
    exact congrArg (· :: _) read

namespace Coordinator

/-- Nothing that was published is still to be taken. -/
def Settled (c : Coordinator σ) : Prop := c.listener = .waiting []

theorem Settled.take_passes {c worked : Coordinator σ} {statuses : List Status}
    (settled : c.Settled) (passes : c.Passes statuses worked) :
    worked.takeStatuses.1 = statuses ∧ worked.takeStatuses.2.Settled := by
  have heard : worked.listener = .waiting statuses := passes.listener_of_waiting settled
  unfold Settled takeStatuses
  rw [heard]
  exact ⟨rfl, rfl⟩

theorem Settled.take_self {c : Coordinator σ} (settled : c.Settled) : c.takeStatuses.2 = c := by
  unfold Settled at settled
  rw [takeStatuses, settled, Listener.take, ← settled]

theorem takeStatuses_status (c : Coordinator σ) : c.takeStatuses.2.status = c.status := rfl

end Coordinator

/-! ## One request -/

section Requests

variable {interpreter : Interpreter σ} {c : Coordinator σ} {request : Request}

theorem Request.published_ne_nil_iff : request.published interpreter c ≠ [] ↔ request.IsWork := by
  rw [← request.call?_isSome]
  unfold published
  split
  · rename_i call makes
    rw [makes]
    exact iff_of_true (c.phases_ne_nil interpreter call) rfl
  · rename_i makes
    rw [makes]
    exact iff_of_false (fun work => work rfl) Bool.false_ne_true

/-- On a request the coordinator passes through what it publishes; the reply has these statuses for
its events, and leaves nothing to be taken. -/
theorem respond_published (interpreter : Interpreter σ) (request : Request) (settled : c.Settled) :
    let reply := respond interpreter c request.command request.arguments
    let statuses := request.published interpreter c
    reply.events = statuses ∧ reply.coordinator.Settled ∧
      ∃ worked, c.Passes statuses worked ∧ reply.coordinator = worked.takeStatuses.2 := by
  unfold Request.published
  split
  · rename_i call makes
    have passes := c.perform_passes interpreter call
    obtain ⟨taken, left⟩ := settled.take_passes passes
    obtain ⟨events, coordinator⟩ := respond_of_call interpreter c makes
    have none : (respond interpreter c request.command request.arguments).coordinator.Settled := by
      rw [coordinator]
      exact left
    exact ⟨events.trans taken, none, _, passes, coordinator⟩
  · rename_i makes
    obtain ⟨events, coordinator⟩ := respond_of_no_call interpreter c makes
    have left : (respond interpreter c request.command request.arguments).coordinator.Settled := by
      rw [coordinator]
      exact settled
    exact ⟨events, left, c, .refl, coordinator.trans settled.take_self.symm⟩

theorem respond_last_status {status : Status}
    (last : (request.published interpreter c).getLast? = some status) :
    (respond interpreter c request.command request.arguments).coordinator.status = status := by
  unfold Request.published at last
  split at last
  · rename_i call makes
    obtain ⟨-, coordinator⟩ := respond_of_call interpreter c makes
    rw [c.phases_getLast? interpreter call] at last
    rw [coordinator, Coordinator.takeStatuses_status]
    exact Option.some.inj last
  · cases last

theorem replyInitialize_body (interpreter : Interpreter σ) (c : Coordinator σ) :
    ∃ fields, (replyInitialize interpreter c).body = some (.object fields) ∧
      valueOf? "status" fields =
        some (.string (replyInitialize interpreter c).coordinator.status.name) ∧
      valueOf? "message" fields =
        some (.string (replyInitialize interpreter c).coordinator.status.message) := by
  refine ⟨_, rfl, ?_, ?_⟩
  · simp only [sortFields, List.foldl_cons, List.foldl_nil, valueOf?_insertField]
    rfl
  · simp only [sortFields, List.foldl_cons, List.foldl_nil, valueOf?_insertField]
    rfl

/-- The body of the reply to an explicit boot names the last status that was published. -/
theorem respond_initialize_body (isBoot : request.command = "initialize") :
    ∃ fields name text,
      (respond interpreter c request.command request.arguments).body = some (.object fields) ∧
        valueOf? "status" fields = some (.string name) ∧
        valueOf? "message" fields = some (.string text) ∧
        (request.published interpreter c).getLast? = Status.spelled? name text := by
  have work : request.published interpreter c ≠ [] :=
    request.published_ne_nil_iff.2 (.inl isBoot)
  obtain ⟨status, isLast⟩ := Option.isSome_iff_exists.1 (List.getLast?_isSome.2 work)
  have behind := respond_last_status isLast
  have same : respond interpreter c request.command request.arguments =
      replyInitialize interpreter c := by
    rw [isBoot]
    rfl
  obtain ⟨fields, body, named, told⟩ := replyInitialize_body interpreter c
  rw [← same] at body named told
  rw [behind] at named told
  exact ⟨fields, _, _, body, named, told, isLast.trans status.spelled?_name_message.symm⟩

end Requests

/-! ## The session -/

/-- What has been written ends with a response. -/
theorem Answered.last_response {found : List Incoming} {outputs : List (List Message)}
    (answered : List.Forall₂ Answered found outputs) {last : Message}
    (isLast : outputs.flatten.getLast? = some last) : last.response?.isSome = true := by
  induction answered with
  | nil => cases isLast
  | @cons incoming output found outputs first _ ih =>
    rw [List.flatten_cons, List.getLast?_append] at isLast
    cases behind : outputs.flatten.getLast? with
    | some later =>
      rw [behind] at isLast ih
      cases isLast
      exact ih rfl
    | none =>
      rw [behind, Option.none_or] at isLast
      cases first with
      | request _ _ isResponse _ =>
        rw [List.getLast?_concat] at isLast
        cases isLast
        rw [isResponse]
        rfl
      | other _ => cases isLast

namespace Server

variable (interpreter : Interpreter σ)

theorem receive_settled {server : Server σ} (settled : server.coordinator.Settled)
    (incoming : Incoming) :
    (server.receive interpreter incoming).server.coordinator.Settled := by
  cases isRequest : incoming.request? with
  | none =>
    rw [server.receive_of_other interpreter isRequest]
    exact settled
  | some request =>
    rw [server.receive_of_request interpreter isRequest]
    exact (respond_published interpreter request settled).2.1

/-- Nothing waits to be written between two things that a reader finds. -/
theorem after_settled {server : Server σ} (settled : server.coordinator.Settled)
    (found : List Incoming) : (server.after interpreter found).coordinator.Settled := by
  induction found generalizing server with
  | nil => exact settled
  | cons incoming found ih => exact ih (receive_settled interpreter settled incoming)

theorem receive_published {server : Server σ} (settled : server.coordinator.Settled)
    {incoming : Incoming} {request : Request} (isRequest : incoming.request? = some request) :
    let reply := respond interpreter server.coordinator request.command request.arguments
    let statuses := request.published interpreter server.coordinator
    ∃ events response, (server.receive interpreter incoming).outgoing = events ++ [response] ∧
      events.map Message.status? = statuses.map some ∧
      response.response? =
        some ⟨request.seq, reply.success, request.command, reply.message, reply.body⟩ := by
  obtain ⟨taken, -, -⟩ := respond_published interpreter request settled
  rw [server.receive_of_request interpreter isRequest]
  simp only [Reply.contents, taken, numberMessages_concat]
  exact ⟨_, _, rfl, numberMessages_status? _ _, rfl⟩

theorem written_around (server : Server σ) (before : List Message) (m : Message)
    (later : List Message) :
    let handled := (server.after interpreter (before.map .message)).receive interpreter (.message m)
    server.written interpreter (before ++ m :: later) =
      server.written interpreter before ++
        (handled.outgoing ++ handled.server.written interpreter later) := by
  intro handled
  rw [written, List.map_append, outputs_append, List.flatten_append]
  rfl

/-- In front of the response to a request, behind the response before it, stand events that tell of
the statuses that were published on this request, each once and in order; the coordinator passed
through exactly these and is left in the last, which the body of a response to a boot tells of too.
Only work has any. Nothing waits to be written between two requests. -/
theorem events_are_published (state : σ) (before : List Message) (m : Message)
    (later : List Message) :
    let session := Server.new state
    let server := session.after interpreter (before.map .message)
    let handled := server.receive interpreter (.message m)
    server.coordinator.Settled ∧ handled.server.coordinator.Settled ∧
      ∀ request, (Incoming.message m).request? = some request →
        let statuses := request.published interpreter server.coordinator
        (∃ events response answer behind,
          session.written interpreter (before ++ m :: later) =
            session.written interpreter before ++ events ++ response :: behind ∧
          (∀ last, (session.written interpreter before).getLast? = some last →
            last.response?.isSome = true) ∧
          events.map Message.status? = statuses.map some ∧
          response.response? = some answer ∧ Answers request answer ∧
          (request.command = "initialize" →
            ∃ fields name text, answer.body = some (.object fields) ∧
              valueOf? "status" fields = some (.string name) ∧
              valueOf? "message" fields = some (.string text) ∧
              statuses.getLast? = Status.spelled? name text)) ∧
        (∃ worked, server.coordinator.Passes statuses worked ∧
          handled.server.coordinator = worked.takeStatuses.2) ∧
        (∀ status, statuses.getLast? = some status →
          handled.server.coordinator.status = status) ∧
        (statuses ≠ [] ↔ request.IsWork) := by
  intro session server handled
  have unused : session.coordinator.Settled := rfl
  have settled : server.coordinator.Settled :=
    after_settled interpreter unused (before.map .message)
  refine ⟨settled, receive_settled interpreter settled _, ?_⟩
  intro request isRequest statuses
  obtain ⟨events, response, outgoing, told, isResponse⟩ :=
    receive_published interpreter settled isRequest
  have coordinator : handled.server.coordinator =
      (respond interpreter server.coordinator request.command request.arguments).coordinator :=
    congrArg (·.server.coordinator) (server.receive_of_request interpreter isRequest)
  obtain ⟨-, -, worked, passes, drained⟩ := respond_published interpreter request settled
  have written : session.written interpreter (before ++ m :: later) =
      session.written interpreter before ++ events ++
        response :: handled.server.written interpreter later := by
    have around : session.written interpreter (before ++ m :: later) =
        session.written interpreter before ++
          (handled.outgoing ++ handled.server.written interpreter later) :=
      session.written_around interpreter before m later
    rw [around, outgoing]
    simp
  refine ⟨⟨events, response, _, _, written, ?_, told, isResponse,
    ⟨rfl, rfl, respond_success⟩, respond_initialize_body⟩,
    ⟨worked, passes, coordinator.trans drained⟩, ?_, request.published_ne_nil_iff⟩
  · intro last isLast
    exact Answered.last_response (session.outputs_answered interpreter _) isLast
  · intro status isLast
    rw [coordinator]
    exact respond_last_status isLast

end Server

end Tutor
