import Tutor.Proofs.Server.History
import Tutor.Proofs.Server.Work

/-!
Frames that change nothing for the others.

A frame is idle if it is no work for the coordinator and no disconnect. It leaves the coordinator as
it is, so two sessions whose frames differ only in idle ones stay in step: after each common frame
their coordinators are the same, and so is what they write on it, apart from the numbers
(`Server.exchanges_common`). `Session.extra_idle_frames` says so of two streams of bytes, and of the
calls that reach the interpreter.
-/

namespace Tutor

open Json

variable {σ : Type}

/-- Neither work for the coordinator nor the end of the session. -/
def Incoming.Idle (incoming : Incoming) : Prop :=
  ∀ request, incoming.request? = some request → ¬ request.IsWork ∧ request.command ≠ "disconnect"

namespace Incoming.Idle

variable {incoming : Incoming}

theorem iff_call? :
    incoming.Idle ↔ incoming.call?.isNone = true ∧ incoming.isDisconnect = false := by
  cases isRequest : incoming.request? with
  | none => simp [Idle, call?, isDisconnect, isRequest]
  | some request => simp [Idle, call?, isDisconnect, isRequest, ← request.call?_isSome]

theorem receive_coordinator (idle : incoming.Idle) (interpreter : Interpreter σ)
    (server : Server σ) :
    (server.receive interpreter incoming).server.coordinator = server.coordinator := by
  rw [server.receive_coordinator interpreter incoming,
    Option.isNone_iff_eq_none.1 (iff_call?.1 idle).1]

end Incoming.Idle

/-! ## A session on frames -/

/-- What is heard of things on a stream: nothing behind the first disconnect. -/
def heard : List Incoming → List Incoming
  | [] => []
  | incoming :: later => incoming :: if incoming.isDisconnect then [] else heard later

namespace Session

theorem serve_frame (interpreter : Interpreter σ) (server : Server σ) {body : List UInt8}
    (within : body.length ≤ maxLength) (rest : List UInt8) :
    let handled := server.receive interpreter (.ofFrame body)
    serve interpreter server none (frame body ++ rest) =
      if (Incoming.ofFrame body).isDisconnect then
        ⟨handled.outgoing, .ofLast (.ofFrame body), rest, handled.server⟩
      else (serve interpreter handled.server none rest).prepend handled.outgoing := by
  have step := serve_unlimited interpreter server (frame body ++ rest)
  simp only [readMessage_frame within, Incoming.ofFrame_goesOn, Bool.true_and] at step
  rw [step]
  cases (Incoming.ofFrame body).isDisconnect <;> rfl

/-- A session on frames hears them up to the first disconnect, and writes what each leads to. -/
theorem serve_frames (interpreter : Interpreter σ) (server : Server σ)
    {bodies : List (List UInt8)} (within : ∀ body ∈ bodies, body.length ≤ maxLength) :
    let session := serve interpreter server none (bodies.flatMap frame)
    let found := heard (bodies.map Incoming.ofFrame)
    session.written = (server.outputs interpreter found).flatten ∧
      session.server = server.after interpreter found := by
  induction bodies generalizing server with
  | nil =>
    have ends : serve interpreter server none [] = ⟨[], .ok, [], server⟩ := by
      have step := serve_unlimited interpreter server []
      simp only [readMessage_nil] at step
      exact step
    rw [List.flatMap_nil, ends]
    exact ⟨rfl, rfl⟩
  | cons body bodies ih =>
    have first : body.length ≤ maxLength := within body (by simp)
    have others : ∀ other ∈ bodies, other.length ≤ maxLength := fun other member =>
      within other (List.mem_cons_of_mem _ member)
    simp only [List.flatMap_cons, serve_frame interpreter server first, List.map_cons, heard]
    split
    · exact ⟨by simp [Server.outputs], rfl⟩
    · obtain ⟨written, after⟩ := ih (server.receive interpreter (.ofFrame body)).server others
      rw [Server.outputs, List.flatten_cons, ← written]
      exact ⟨rfl, after⟩

end Session

/-! ## Two sessions with common frames -/

/-- Which of two sessions something belongs to. -/
inductive Share
  | both
  | first
  | second
  deriving DecidableEq

namespace Share

def inFirst (share : Share) : Bool := share != second

def inSecond (share : Share) : Bool := share != first

end Share

/-- A frame of one or both of two sessions, by its body. -/
abbrev SharedFrame := Share × List UInt8

namespace SharedFrame

def incoming (f : SharedFrame) : Incoming := .ofFrame f.2

def isCommon (f : SharedFrame) : Bool := f.1 == .both

end SharedFrame

/-- The bytes of frames in a row. -/
def stream (frames : List SharedFrame) : List UInt8 := (frames.map (·.2)).flatMap frame

/-- The frames that a session hears, each with what the server writes on it apart from the
numbers. -/
def Server.exchanges (interpreter : Interpreter σ) (server : Server σ)
    (frames : List SharedFrame) : List (SharedFrame × List Message) :=
  frames.zip
    ((server.outputs interpreter (heard (frames.map SharedFrame.incoming))).map
      (·.map Message.unnumbered))

namespace Server

variable (interpreter : Interpreter σ) (server : Server σ)

theorem exchanges_cons (f : SharedFrame) (frames : List SharedFrame) :
    server.exchanges interpreter (f :: frames) =
      (f, repliesOn interpreter server.coordinator f.incoming) ::
        if f.incoming.isDisconnect then []
        else (server.receive interpreter f.incoming).server.exchanges interpreter frames := by
  unfold exchanges
  rw [List.map_cons, heard, outputs, List.map_cons, List.zip_cons_cons, receive_unnumbered]
  split
  · rw [outputs, List.map_nil, List.zip_nil_right]
  · rfl

theorem after_heard_cons (f : SharedFrame) (frames : List SharedFrame) :
    server.after interpreter (heard ((f :: frames).map SharedFrame.incoming)) =
      if f.incoming.isDisconnect then (server.receive interpreter f.incoming).server
      else (server.receive interpreter f.incoming).server.after interpreter
        (heard (frames.map SharedFrame.incoming)) := by
  rw [List.map_cons, heard]
  split <;> rfl

/-- A frame that only this session has is idle, and drops out of what is common. -/
theorem exchanges_extra {f : SharedFrame} (extra : f.isCommon = false) (idle : f.incoming.Idle)
    (frames : List SharedFrame) :
    let behind := (server.receive interpreter f.incoming).server
    behind.coordinator = server.coordinator ∧
      (server.exchanges interpreter (f :: frames)).filter (·.1.isCommon) =
        (behind.exchanges interpreter frames).filter (·.1.isCommon) ∧
      server.after interpreter (heard ((f :: frames).map SharedFrame.incoming)) =
        behind.after interpreter (heard (frames.map SharedFrame.incoming)) := by
  have goesOn : ¬ f.incoming.isDisconnect = true := by simp [(Incoming.Idle.iff_call?.1 idle).2]
  refine ⟨idle.receive_coordinator interpreter server, ?_, ?_⟩
  · rw [exchanges_cons, if_neg goesOn, List.filter_cons_of_neg (by simp [extra])]
  · rw [after_heard_cons, if_neg goesOn]

variable {server} {other : Server σ}

/-- Two servers with the same coordinator write the same on common frames, and end with the same
coordinator, whatever idle frames only one of them reads. -/
theorem exchanges_common (same : server.coordinator = other.coordinator)
    {script : List SharedFrame} (idle : ∀ f ∈ script, f.isCommon = false → f.incoming.Idle) :
    let first := script.filter (·.1.inFirst)
    let second := script.filter (·.1.inSecond)
    (server.exchanges interpreter first).filter (·.1.isCommon) =
        (other.exchanges interpreter second).filter (·.1.isCommon) ∧
      (server.after interpreter (heard (first.map SharedFrame.incoming))).coordinator =
        (other.after interpreter (heard (second.map SharedFrame.incoming))).coordinator := by
  -- One step reads the next frame in those of the two sessions that have it; what carries the
  -- induction is that the coordinators agree, while the last numbers may differ.
  induction script generalizing server other with
  | nil => exact ⟨rfl, same⟩
  | cons f script ih =>
    have later : ∀ g ∈ script, g.isCommon = false → g.incoming.Idle := fun g member =>
      idle g (List.mem_cons_of_mem _ member)
    intro first second
    cases share : f.1 with
    | both =>
      have inFirst : first = f :: script.filter (·.1.inFirst) :=
        List.filter_cons_of_pos (by rw [share]; rfl)
      have inSecond : second = f :: script.filter (·.1.inSecond) :=
        List.filter_cons_of_pos (by rw [share]; rfl)
      have next : (server.receive interpreter f.incoming).server.coordinator =
          (other.receive interpreter f.incoming).server.coordinator := by
        rw [receive_coordinator, receive_coordinator, same]
      -- Both read the frame, and from the same coordinator both write the same on it.
      rw [inFirst, inSecond, exchanges_cons, exchanges_cons, after_heard_cons, after_heard_cons,
        same]
      split
      · exact ⟨rfl, next⟩
      · obtain ⟨exchanged, ended⟩ := ih next later
        rw [List.filter_cons, List.filter_cons, exchanged]
        exact ⟨rfl, ended⟩
    | first =>
      have extra : f.isCommon = false := by rw [SharedFrame.isCommon, share]; rfl
      have inFirst : first = f :: script.filter (·.1.inFirst) :=
        List.filter_cons_of_pos (by rw [share]; rfl)
      have notSecond : second = script.filter (·.1.inSecond) :=
        List.filter_cons_of_neg (by rw [share]; decide)
      obtain ⟨kept, exchanged, ended⟩ := server.exchanges_extra interpreter
        extra (idle f (by simp) extra) (script.filter (·.1.inFirst))
      rw [inFirst, notSecond, exchanged, ended]
      exact ih (kept.trans same) later
    | second =>
      have extra : f.isCommon = false := by rw [SharedFrame.isCommon, share]; rfl
      have notFirst : first = script.filter (·.1.inFirst) :=
        List.filter_cons_of_neg (by rw [share]; decide)
      have inSecond : second = f :: script.filter (·.1.inSecond) :=
        List.filter_cons_of_pos (by rw [share]; rfl)
      obtain ⟨kept, exchanged, ended⟩ := other.exchanges_extra interpreter
        extra (idle f (by simp) extra) (script.filter (·.1.inSecond))
      rw [notFirst, inSecond, exchanged, ended]
      exact ih (same.trans kept.symm) later

/-- The exchanges of a session make up all that is written in it. -/
theorem exchanges_flatMap (interpreter : Interpreter σ) (server : Server σ)
    (frames : List SharedFrame) :
    (server.exchanges interpreter frames).flatMap (·.2) =
      (server.outputs interpreter (heard (frames.map SharedFrame.incoming))).flatten.map
        Message.unnumbered := by
  induction frames generalizing server with
  | nil => rfl
  | cons f frames ih =>
    rw [exchanges_cons, List.flatMap_cons, List.map_cons, heard, outputs, List.flatten_cons,
      List.map_append, receive_unnumbered]
    split
    · rfl
    · rw [ih]

end Server

namespace Session

/-- What `serve_frames` says, of frames that belong to one or both of two sessions. -/
theorem serve_stream (interpreter : Interpreter σ) (server : Server σ)
    {frames : List SharedFrame} (within : ∀ f ∈ frames, f.2.length ≤ maxLength) :
    let session := serve interpreter server none (stream frames)
    session.written.map Message.unnumbered =
        (server.exchanges interpreter frames).flatMap (·.2) ∧
      session.server = server.after interpreter (heard (frames.map SharedFrame.incoming)) := by
  have bodies : ∀ body ∈ frames.map (·.2), body.length ≤ maxLength := by
    intro body member
    obtain ⟨f, inFrames, rfl⟩ := List.mem_map.1 member
    exact within f inFrames
  have incomings : (frames.map (·.2)).map Incoming.ofFrame = frames.map SharedFrame.incoming := by
    rw [List.map_map]
    rfl
  obtain ⟨written, after⟩ := serve_frames interpreter server bodies
  rw [incomings] at written after
  refine ⟨?_, after⟩
  rw [stream, written, Server.exchanges_flatMap]

/-- Frames that are idle may stand in only one of two sessions: on all common frames both write the
same, apart from the numbers, and the same calls reach the interpreter in the same order. -/
theorem extra_idle_frames (interpreter : Interpreter σ) (state : σ) (script : List SharedFrame)
    (within : ∀ f ∈ script, f.2.length ≤ maxLength)
    (idle : ∀ f ∈ script, f.isCommon = false → f.incoming.Idle) :
    let first := script.filter (·.1.inFirst)
    let second := script.filter (·.1.inSecond)
    let session (frames : List SharedFrame) := serve interpreter (.new state) none (stream frames)
    let recorded (frames : List SharedFrame) :=
      serve interpreter.recorded (.new (state, [])) none (stream frames)
    let exchanges := (Server.new state).exchanges interpreter
    (∀ frames ∈ [first, second],
      (session frames).written.map Message.unnumbered = (exchanges frames).flatMap (·.2) ∧
        (recorded frames).forget = session frames) ∧
      (exchanges first).filter (·.1.isCommon) = (exchanges second).filter (·.1.isCommon) ∧
      (recorded first).server.coordinator.history =
        (recorded second).server.coordinator.history := by
  intro first second session recorded exchanges
  have withinShare : ∀ frames ∈ [first, second], ∀ f ∈ frames, f.2.length ≤ maxLength := by
    intro frames either f member
    simp only [List.mem_cons, List.not_mem_nil, or_false] at either
    rcases either with rfl | rfl
    · exact within f (List.mem_filter.1 member).1
    · exact within f (List.mem_filter.1 member).1
  have plainStart : (Server.new state).coordinator = (Server.new state).coordinator := rfl
  have recordedStart : (Server.new (state, ([] : List Occurrence))).coordinator =
      (Server.new (state, [])).coordinator := rfl
  obtain ⟨common, -⟩ := Server.exchanges_common interpreter plainStart idle
  obtain ⟨-, ended⟩ := Server.exchanges_common interpreter.recorded recordedStart idle
  refine ⟨?_, common, ?_⟩
  · intro frames either
    exact ⟨(serve_stream interpreter (.new state) (withinShare frames either)).1,
      serve_recorded interpreter (.new (state, [])) none (stream frames)⟩
  · have firstEnd := (serve_stream interpreter.recorded (.new (state, []))
      (withinShare first (by simp))).2
    have secondEnd := (serve_stream interpreter.recorded (.new (state, []))
      (withinShare second (by simp))).2
    simp only [recorded, firstEnd, secondEnd]
    exact congrArg Coordinator.history ended

/-- Bytes that are no message, an explanation and a run whose arguments are refused, around a boot
and a run of an interpreter that echoes its programs. -/
theorem extra_idle_frames_around_run :
    let echo : Interpreter Unit :=
      ⟨fun _ => (.ok (), ()), fun source _ => .say source (.done (.ok (), ()))⟩
    let boot := "\x7b\"seq\":1,\"type\":\"request\",\"command\":\"initialize\"\x7d"
    let explain := "\x7b\"seq\":2,\"type\":\"\",\"command\":\"explain\",\"arguments\":[\"x\"]\x7d"
    let refused := "\x7b\"seq\":3,\"type\":\"\",\"command\":\"run\",\"arguments\":[7]\x7d"
    let run := "\x7b\"seq\":4,\"type\":\"\",\"command\":\"run\",\"arguments\":[\"x\"]\x7d"
    let script : List SharedFrame :=
      [(.first, [0xFF]), (.both, Utf8.encode boot.toList), (.second, Utf8.encode explain.toList),
        (.first, Utf8.encode refused.toList), (.both, Utf8.encode run.toList)]
    let first := script.filter (·.1.inFirst)
    let second := script.filter (·.1.inSecond)
    let recorded (frames : List SharedFrame) :=
      serve echo.recorded (.new ((), [])) none (stream frames)
    let exchanges := (Server.new ()).exchanges echo
    (∀ f ∈ script, f.2.length ≤ maxLength) ∧
      (∀ f ∈ script, f.isCommon = false → f.incoming.Idle) ∧
      (exchanges first).filter (·.1.isCommon) = (exchanges second).filter (·.1.isCommon) ∧
      (recorded first).server.coordinator.history =
        (recorded second).server.coordinator.history := by
  intro echo boot explain refused run script first second recorded exchanges
  have within : ∀ f ∈ script, f.2.length ≤ maxLength := by decide
  have idle : ∀ f ∈ script, f.isCommon = false → f.incoming.Idle := by
    have all : (script.all fun f => f.isCommon ||
        (f.incoming.call?.isNone && !f.incoming.isDisconnect)) = true := by
      subst script boot explain refused run
      decide +kernel
    intro f member extra
    have idle := List.all_eq_true.1 all f member
    rw [extra, Bool.false_or, Bool.and_eq_true, Bool.not_eq_true'] at idle
    exact Incoming.Idle.iff_call?.2 idle
  obtain ⟨-, common, history⟩ := extra_idle_frames echo () script within idle
  exact ⟨within, idle, common, history⟩

end Session

end Tutor
