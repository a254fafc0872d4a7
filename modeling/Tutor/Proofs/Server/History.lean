import Tutor.Proofs.Run.History
import Tutor.Proofs.Server.Serving

/-!
A session with the history of its interpreter.

As a coordinator, a session does the same whether or not the calls of its interpreter are written
down (`Session.serve_recorded`), so the history of the one holds the calls that reach the other.
-/

namespace Tutor

open Json

variable {σ : Type}

/-- The reply without the history. -/
def Reply.forget (reply : Reply (σ × List Occurrence)) : Reply σ :=
  ⟨reply.events, reply.success, reply.message, reply.body, reply.coordinator.forget⟩

/-- The server without the history. -/
def Server.forget (server : Server (σ × List Occurrence)) : Server σ :=
  ⟨server.lastSeq, server.coordinator.forget⟩

/-- The session without the history. -/
def Session.forget (session : Session (σ × List Occurrence)) : Session σ :=
  ⟨session.written, session.ending, session.unread, session.server.forget⟩

/-! ## Replies -/

section Replies

variable (interpreter : Interpreter σ) (c : Coordinator (σ × List Occurrence))

theorem Reply.forget_worked (body : Value) :
    (Reply.worked c body).forget = .worked c.forget body := rfl

theorem replyInitialize_recorded :
    (replyInitialize interpreter.recorded c).forget = replyInitialize interpreter c.forget := by
  rcases outcome : interpreter.boot c.interpreter.1 with ⟨e | _, state⟩
  · rw [replyInitialize, replyInitialize, Coordinator.boot_of_error (c := c.forget) outcome,
      Coordinator.boot_of_error (c := c) (Interpreter.recorded_boot outcome)]
    rfl
  · rw [replyInitialize, replyInitialize, Coordinator.boot_of_ok (c := c.forget) outcome,
      Coordinator.boot_of_ok (c := c) (Interpreter.recorded_boot outcome)]
    rfl

theorem replyToRun_recorded (v : Value) (body : RunArguments → RunResult → Value) :
    (replyToRun interpreter.recorded c v body).forget =
      replyToRun interpreter c.forget v body := by
  unfold replyToRun
  split
  · rfl
  · rename_i run _
    obtain ⟨result, after, -⟩ :=
      c.run_recorded interpreter PreparedAnswers.answerer run.source (.ofList run.stdin)
    simp only [Reply.forget_worked, result, after]

theorem replyClassifyLine_forget (v : Value) :
    (replyClassifyLine c v).forget = replyClassifyLine c.forget v := by
  unfold replyClassifyLine
  split <;> rfl

theorem replyExplain_forget (v : Value) :
    (replyExplain c v).forget = replyExplain c.forget v := by
  unfold replyExplain
  split <;> rfl

theorem respond_recorded (command : String) (arguments : Option Value) :
    (respond interpreter.recorded c command arguments).forget =
      respond interpreter c.forget command arguments := by
  unfold respond
  split
  case h_1 => exact replyInitialize_recorded interpreter c
  case h_2 => exact replyClassifyLine_forget c _
  case h_3 => exact replyExplain_forget c _
  case h_4 => exact replyToRun_recorded interpreter c _ _
  case h_5 => exact replyToRun_recorded interpreter c _ _
  case h_6 => rfl
  case h_7 => rfl
  case h_8 => rfl

end Replies

/-! ## Sessions -/

theorem Server.hear_recorded (interpreter : Interpreter σ)
    (server : Server (σ × List Occurrence)) (writer : Writer) (incoming : Incoming) :
    let recorded := server.hear interpreter.recorded writer incoming
    let plain := server.forget.hear interpreter writer incoming
    recorded.outgoing = plain.outgoing ∧ recorded.server.forget = plain.server ∧
      recorded.writer = plain.writer := by
  cases isRequest : incoming.request? with
  | none =>
    rw [hear_of_other _ _ _ isRequest, hear_of_other _ _ _ isRequest]
    exact ⟨rfl, rfl, rfl⟩
  | some request =>
    have reply := respond_recorded interpreter server.coordinator request.command request.arguments
    rw [hear_of_request _ _ _ isRequest, hear_of_request _ _ _ isRequest]
    simp only [forget]
    rw [← reply]
    exact ⟨rfl, rfl, rfl⟩

namespace Session

theorem forget_prepend (messages : List Message) (session : Session (σ × List Occurrence)) :
    (session.prepend messages).forget = session.forget.prepend messages := rfl

/-- A session does the same whether or not the calls of its interpreter are written down. -/
theorem serve_recorded (interpreter : Interpreter σ) (server : Server (σ × List Occurrence))
    (writer : Writer) (bytes : List UInt8) :
    (serve interpreter.recorded server writer bytes).forget =
      serve interpreter server.forget writer bytes := by
  obtain ⟨outgoing, next, left⟩ := server.hear_recorded interpreter writer (readMessage bytes).1
  rw [serve_step, serve_step]
  simp only
  rw [outgoing, left, ← next]
  split
  · rfl
  · rename_i writer _
    by_cases more : ((readMessage bytes).1.goesOn && !(readMessage bytes).1.isDisconnect) = true
    · rw [if_pos more, if_pos more]
      simp only [Bool.and_eq_true] at more
      have shorter := readMessage_length_lt more.1
      rw [forget_prepend, serve_recorded]
    · rw [if_neg more, if_neg more]
      rfl
termination_by bytes.length

end Session

end Tutor
