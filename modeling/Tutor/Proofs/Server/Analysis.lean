import Tutor.Proofs.Server.Events
import Tutor.Proofs.Server.History

/-!
Running a program with and without its explanation.

A request for both is a request to run as far as the coordinator is concerned: it passes through
the same statuses, asks the same of the interpreter and is left in the same state. Its body puts the
body of the one response beside the records of the other (`Server.analysis_runs_and_explains`).
-/

namespace Tutor

open Json

variable {σ : Type}

/-! ## Replies -/

section Replies

variable (interpreter : Interpreter σ) (c : Coordinator σ) {v : Value}

/-- What a run with these arguments leads to. -/
def runWith (run : RunArguments) : RunResult × Coordinator σ × PreparedAnswers :=
  c.run interpreter PreparedAnswers.answerer run.source (.ofList run.stdin)

theorem replyToRun_of_argument {run : RunArguments} (accepted : RunArgument v run)
    (body : RunArguments → RunResult → Value) :
    replyToRun interpreter c v body =
      .worked (runWith interpreter c run).2.1 (body run (runWith interpreter c run).1) := by
  rw [replyToRun, (RunArguments.read_ok_iff "struct RunArgs").2 accepted]
  rfl

theorem respond_run {run : RunArguments} (accepted : RunArgument v run) :
    respond interpreter c "run" (some v) =
      .worked (runWith interpreter c run).2.1 (runWith interpreter c run).1.value :=
  replyToRun_of_argument interpreter c accepted fun _ result => result.value

theorem respond_explain {source : String} (accepted : TextArgument "source" v source) :
    respond interpreter c "explain" (some v) =
      .ok c (some (.object [("records", recordsValue source)])) := by
  change replyExplain c v = _
  rw [replyExplain, (readTextArgument_ok_iff "struct ExplainArgs").2 accepted]
  rfl

/-- The fields of an analysis are written in their order. -/
theorem analysis_fields (records result : Value) :
    Value.ofFields [("records", records), ("result", result)] =
      .object [("records", records), ("result", result)] := by
  have rising : "records" < "result" := by decide +kernel
  rw [Value.ofFields, sortFields_of_rising (List.pairwise_pair.2 rising)]

theorem respond_analyzeAndRun {run : RunArguments} (accepted : RunArgument v run) :
    respond interpreter c "analyzeAndRun" (some v) =
      .worked (runWith interpreter c run).2.1 (.object [
        ("records", recordsValue run.source),
        ("result", (runWith interpreter c run).1.value)]) := by
  rw [← analysis_fields]
  exact replyToRun_of_argument interpreter c accepted fun run result => .ofFields [
    ("records", recordsValue run.source), ("result", result.value)]

end Replies

/-! ## Requests -/

namespace Server

variable (interpreter : Interpreter σ) (server : Server σ)

/-- A server at a request with these arguments. -/
def ask (seq : Nat) (type command : String) (arguments : Value) : Handled σ :=
  server.receive interpreter (.message ⟨seq, type, .request command (some arguments)⟩)

theorem ask_eq (seq : Nat) (type command : String) (arguments : Value) :
    server.ask interpreter seq type command arguments =
      let reply := respond interpreter server.coordinator command (some arguments)
      let contents := reply.contents seq command
      ⟨numberMessages server.lastSeq contents,
        ⟨server.lastSeq + contents.length, reply.coordinator⟩, some none,
        command != "disconnect"⟩ := by
  have isRequest : (Incoming.message ⟨seq, type, .request command (some arguments)⟩).request? =
      some ⟨seq, command, some arguments⟩ := rfl
  exact server.receive_of_request interpreter isRequest

/-- Work of the coordinator: the events go in front of the response, and the server is numbered
behind both. -/
theorem ask_of_worked {command : String} {arguments : Value} {after : Coordinator σ} {body : Value}
    (replies : respond interpreter server.coordinator command (some arguments) = .worked after body)
    (seq : Nat) (type : String) :
    let events := numberMessages server.lastSeq (after.takeStatuses.1.map Status.event)
    let last := server.lastSeq + events.length + 1
    let handled := server.ask interpreter seq type command arguments
    handled.outgoing =
        events ++ [⟨last, "response", .response seq true command none (some body)⟩] ∧
      handled.server = ⟨last, after.takeStatuses.2⟩ := by
  intro events last handled
  have outgoing : numberMessages server.lastSeq ((Reply.worked after body).contents seq command) =
      events ++ [⟨last, "response", .response seq true command none (some body)⟩] := by
    have behind : last = server.lastSeq + after.takeStatuses.1.length + 1 := by
      simp only [last, events, numberMessages_length, List.length_map]
    rw [Reply.contents, numberMessages_concat, List.length_map, behind]
    rfl
  simp only [handled, ask_eq, replies]
  refine ⟨outgoing, ?_⟩
  simp [last, events, numberMessages_length, Reply.contents, Reply.worked, Nat.add_assoc]

/-- A session up to some moment is the same whether or not the calls of its interpreter are written
down. -/
theorem after_recorded (interpreter : Interpreter σ) (server : Server (σ × List Occurrence))
    (found : List Incoming) :
    (server.after interpreter.recorded found).forget = server.forget.after interpreter found := by
  induction found generalizing server with
  | nil => rfl
  | cons incoming found ih =>
    have next : (server.receive interpreter.recorded incoming).server.forget =
        (server.forget.receive interpreter incoming).server :=
      (server.hear_recorded interpreter none incoming).2.1
    have rest := ih (server.receive interpreter.recorded incoming).server
    rw [next] at rest
    exact rest

/-- Whatever went before, a program that is run with its explanation is run just as without: the
same status events are written, the same calls reach the interpreter, and the same server is left.
The response holds the records that an explanation holds, and beside them the body of the response
to the run. -/
theorem analysis_runs_and_explains (interpreter : Interpreter σ) (state : σ)
    (before : List Incoming) {run : RunArguments} {v w u : Value} (runs : RunArgument v run)
    (analyses : RunArgument w run) (explains : TextArgument "source" u run.source) (seq : Nat)
    (type : String) :
    let server := (Server.new (state, [])).after interpreter.recorded before
    let ask := server.ask interpreter.recorded seq type
    let call := Coordinator.Call.run PreparedAnswers.answerer run.source (.ofList run.stdin)
    let records := recordsValue run.source
    let result := (runWith interpreter.recorded server.coordinator run).1.value
    (server.forget = (Server.new state).after interpreter before ∧
      ∀ command arguments,
        let plain := server.forget.ask interpreter seq type command arguments
        (ask command arguments).outgoing = plain.outgoing ∧
          (ask command arguments).server.forget = plain.server) ∧
      (ask "analyzeAndRun" w).server = (ask "run" v).server ∧
      (ask "run" v).server.coordinator.history =
        (server.coordinator.perform interpreter.recorded call).history ∧
      ∃ events last,
        events.map Message.content =
            (server.coordinator.phases interpreter.recorded call).map Status.event ∧
          (ask "run" v).outgoing =
            events ++ [⟨last, "response", .response seq true "run" none (some result)⟩] ∧
          (ask "explain" u).outgoing =
            [⟨server.lastSeq + 1, "response",
              .response seq true "explain" none (some (.object [("records", records)]))⟩] ∧
          (ask "analyzeAndRun" w).outgoing =
            events ++ [⟨last, "response", .response seq true "analyzeAndRun" none
              (some (.object [("records", records), ("result", result)]))⟩] := by
  intro server ask call records result
  have unused : (Server.new (state, ([] : List Occurrence))).coordinator.Settled := rfl
  have settled : server.coordinator.Settled := after_settled interpreter.recorded unused before
  obtain ⟨ran, ranServer⟩ := server.ask_of_worked interpreter.recorded
    (respond_run interpreter.recorded server.coordinator runs) seq type
  obtain ⟨analysed, analysedServer⟩ := server.ask_of_worked interpreter.recorded
    (respond_analyzeAndRun interpreter.recorded server.coordinator analyses) seq type
  have explained : (ask "explain" u).outgoing = [⟨server.lastSeq + 1, "response",
      .response seq true "explain" none (some (.object [("records", records)]))⟩] := by
    simp only [ask, ask_eq, respond_explain interpreter.recorded server.coordinator explains]
    rfl
  refine ⟨⟨after_recorded interpreter _ before, ?_⟩, ?_, ?_, ?_⟩
  · intro command arguments
    obtain ⟨outgoing, next, -⟩ := server.hear_recorded interpreter none _
    exact ⟨outgoing, next⟩
  · exact analysedServer.trans ranServer.symm
  · rw [show (ask "run" v).server = _ from ranServer]
    rfl
  · -- Nothing was waiting, so what is taken behind the run was published by it.
    obtain ⟨taken, -⟩ :=
      settled.take_passes (server.coordinator.perform_passes interpreter.recorded call)
    refine ⟨_, _, ?_, ran, explained, analysed⟩
    rw [numberMessages_content]
    exact congrArg (List.map Status.event) taken

/-- A program that asks for a line and then fails, behind an explicit boot, with its arguments in an
array, in an object, and without the answers. -/
theorem analysis_runs_and_explains_failing :
    let inquire : Interpreter Unit :=
      ⟨fun _ => (.ok (), ()), fun source _ =>
        .ask (some "? ") fun answer => .say answer (.done (.error (.program source), ()))⟩
    let run : RunArguments := ⟨"KeyError", ["7"]⟩
    let v := Value.array [.string "KeyError", .array [.string "7"]]
    let w := Value.object [("source", .string "KeyError"), ("stdin", .array [.string "7"])]
    let u := Value.array [.string "KeyError"]
    let server := (Server.new ((), [])).after inquire.recorded
      [.message ⟨1, "request", .request "initialize" none⟩]
    let ask := server.ask inquire.recorded 2 "request"
    RunArgument v run ∧ RunArgument w run ∧ TextArgument "source" u run.source ∧
      (ask "analyzeAndRun" w).server = (ask "run" v).server ∧
      (ask "run" v).server.coordinator.status = .finishedWithErrors := by
  intro inquire run v w u server ask
  have runs : RunArgument v run := @RunArgument.items "KeyError" ["7"]
  have analyses : RunArgument w run := .fields rfl rfl
  have explains : TextArgument "source" u run.source := .item
  obtain ⟨-, same, -⟩ := analysis_runs_and_explains inquire ()
    [.message ⟨1, "request", .request "initialize" none⟩] runs analyses explains 2 "request"
  refine ⟨runs, analyses, explains, same, ?_⟩
  decide +kernel

end Server

end Tutor
