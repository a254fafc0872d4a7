import Tutor.Proofs.Run.Publication
import Tutor.Proofs.Server.Serving

/-!
Which requests reach the coordinator.

`Request.call?` names the call that a request makes of the coordinator: a boot, a run where the
arguments are accepted, or none. `respond_of_call` and `respond_of_no_call` say that this is all a
request does to it, and `Server.receive_coordinator` says so of everything that a reader finds. What
is written depends on the coordinator alone, apart from the numbers (`Server.receive_unnumbered`).
-/

namespace Tutor

open Json

variable {σ : Type}

/-- The call of the coordinator that a request makes. -/
def Request.call? (request : Request) : Option Coordinator.Call :=
  match request.command with
  | "initialize" => some .boot
  | "run" | "analyzeAndRun" =>
    match RunArguments.read "struct RunArgs" (request.arguments.getD .null) with
    | .ok run => some (.run PreparedAnswers.answerer run.source (.ofList run.stdin))
    | .error _ => none
  | _ => none

/-- The call of the coordinator that a thing makes that was found. -/
def Incoming.call? (incoming : Incoming) : Option Coordinator.Call :=
  incoming.request?.bind Request.call?

/-- A request is work for the coordinator: a boot, or a run whose arguments are accepted. -/
def Request.IsWork (request : Request) : Prop :=
  request.command = "initialize" ∨
    (request.command = "run" ∨ request.command = "analyzeAndRun") ∧
      ∃ run, RunArgument (request.arguments.getD .null) run

theorem Request.call?_isSome (request : Request) :
    request.call?.isSome = true ↔ request.IsWork := by
  have accepted : (match RunArguments.read "struct RunArgs" (request.arguments.getD .null) with
      | .ok run =>
        some (Coordinator.Call.run PreparedAnswers.answerer run.source (.ofList run.stdin))
      | .error _ => none).isSome = true ↔
        ∃ run, RunArgument (request.arguments.getD .null) run := by
    simp only [← RunArguments.read_ok_iff "struct RunArgs"]
    split <;> rename_i read <;> simp [read]
  unfold call? IsWork
  split
  · rename_i command
    simp [command]
  · rename_i command
    simpa [command] using accepted
  · rename_i command
    simpa [command] using accepted
  · rename_i notBoot notRun notBoth
    refine iff_of_false Bool.false_ne_true ?_
    rintro (boot | ⟨run | both, -⟩)
    · exact notBoot boot
    · exact notRun run
    · exact notBoth both

/-! ## Replies -/

section Replies

variable (interpreter : Interpreter σ) (c : Coordinator σ)

theorem respond_of_call {request : Request} {call : Coordinator.Call}
    (makes : request.call? = some call) :
    let reply := respond interpreter c request.command request.arguments
    reply.events = (c.perform interpreter call).takeStatuses.1 ∧
      reply.coordinator = (c.perform interpreter call).takeStatuses.2 := by
  unfold Request.call? at makes
  split at makes
  · rename_i command
    cases makes
    rw [command]
    exact ⟨rfl, rfl⟩
  · rename_i command
    split at makes
    · rename_i read
      cases makes
      rw [command]
      simp only [respond, replyRun, replyToRun, read]
      exact ⟨rfl, rfl⟩
    · cases makes
  · rename_i command
    split at makes
    · rename_i read
      cases makes
      rw [command]
      simp only [respond, replyAnalyzeAndRun, replyToRun, read]
      exact ⟨rfl, rfl⟩
    · cases makes
  · cases makes

theorem replyClassifyLine_idle (v : Value) :
    (replyClassifyLine c v).events = [] ∧ (replyClassifyLine c v).coordinator = c := by
  unfold replyClassifyLine
  split <;> exact ⟨rfl, rfl⟩

theorem replyExplain_idle (v : Value) :
    (replyExplain c v).events = [] ∧ (replyExplain c v).coordinator = c := by
  unfold replyExplain
  split <;> exact ⟨rfl, rfl⟩

/-- A request that makes no call leaves the coordinator as it is, its listener included. -/
theorem respond_of_no_call {request : Request} (makes : request.call? = none) :
    let reply := respond interpreter c request.command request.arguments
    reply.events = [] ∧ reply.coordinator = c := by
  have refused {body : RunArguments → RunResult → Value} {e : ArgumentError}
      (read : RunArguments.read "struct RunArgs" (request.arguments.getD .null) = .error e) :
      replyToRun interpreter c (request.arguments.getD .null) body = .badArguments c e := by
    rw [replyToRun, read]
  unfold Request.call? at makes
  split at makes
  · cases makes
  · rename_i command
    split at makes
    · cases makes
    · rename_i read
      rw [command]
      simp only [respond, replyRun, refused read]
      exact ⟨rfl, rfl⟩
  · rename_i command
    split at makes
    · cases makes
    · rename_i read
      rw [command]
      simp only [respond, replyAnalyzeAndRun, refused read]
      exact ⟨rfl, rfl⟩
  · rename_i notBoot notRun notBoth
    unfold respond
    split
    · exact absurd ‹_› notBoot
    · exact replyClassifyLine_idle c _
    · exact replyExplain_idle c _
    · exact absurd ‹_› notRun
    · exact absurd ‹_› notBoth
    · exact ⟨rfl, rfl⟩
    · exact ⟨rfl, rfl⟩
    · exact ⟨rfl, rfl⟩

end Replies

/-! ## Servers -/

theorem numberMessages_content (last : Nat) (contents : List MessageContent) :
    (numberMessages last contents).map Message.content = contents := by
  rw [numberMessages, List.map_map]
  exact List.zipIdx_map_fst (last + 1) contents

/-- A message apart from its number. -/
def Message.unnumbered (m : Message) : Message := { m with seq := 0 }

theorem numberMessages_unnumbered (last : Nat) (contents : List MessageContent) :
    (numberMessages last contents).map Message.unnumbered =
      contents.map fun content => ⟨0, content.typeName, content⟩ := by
  have unnumbered : (numberMessages last contents).map Message.unnumbered =
      ((contents.zipIdx (last + 1)).map Prod.fst).map
        fun content => (⟨0, content.typeName, content⟩ : Message) := by
    rw [numberMessages, List.map_map, List.map_map]
    rfl
  rw [unnumbered, List.zipIdx_map_fst]

namespace Server

variable (interpreter : Interpreter σ) (server : Server σ)

/-- What is written on a thing that was found, apart from the numbers. -/
def repliesOn (c : Coordinator σ) (incoming : Incoming) : List Message :=
  match incoming.request? with
  | some request =>
    ((respond interpreter c request.command request.arguments).contents request.seq
      request.command).map fun content => ⟨0, content.typeName, content⟩
  | none => []

theorem receive_unnumbered (incoming : Incoming) :
    (server.receive interpreter incoming).outgoing.map Message.unnumbered =
      repliesOn interpreter server.coordinator incoming := by
  unfold repliesOn
  split
  · rename_i request isRequest
    rw [server.receive_of_request interpreter isRequest]
    exact numberMessages_unnumbered _ _
  · rename_i isNone
    rw [server.receive_of_other interpreter isNone]
    rfl

/-- The coordinator behind a thing that was found: it has performed the call and given up its
statuses, or nothing has touched it. -/
theorem receive_coordinator (incoming : Incoming) :
    (server.receive interpreter incoming).server.coordinator =
      match incoming.call? with
      | some call => (server.coordinator.perform interpreter call).takeStatuses.2
      | none => server.coordinator := by
  cases isRequest : incoming.request? with
  | none =>
    rw [Incoming.call?, isRequest, server.receive_of_other interpreter isRequest]
    rfl
  | some request =>
    rw [Incoming.call?, isRequest, Option.bind_some,
      server.receive_of_request interpreter isRequest]
    cases makes : request.call? with
    | none => exact (respond_of_no_call interpreter _ makes).2
    | some call => exact (respond_of_call interpreter _ makes).2

theorem outputs_append (earlier later : List Incoming) :
    server.outputs interpreter (earlier ++ later) =
      server.outputs interpreter earlier ++
        (server.after interpreter earlier).outputs interpreter later := by
  induction earlier generalizing server with
  | nil => rfl
  | cons incoming earlier ih =>
    rw [List.cons_append, outputs, outputs, ih, List.cons_append]
    rfl

end Server

end Tutor
