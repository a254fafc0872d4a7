import Tutor.Run.Result

/-!
The coordinator walks an interpreter through its boot and through runs, one at a time, and
publishes every change of its status to a listener.

The first run boots an interpreter that was never booted. Once a boot has failed, runs are
refused without another attempt, until an explicit boot succeeds.
-/

namespace Tutor

/-- The phase that a coordinator is in. -/
inductive Status
  | notReady
  | ready
  | unavailable
  | preparing
  | running
  | finished
  | finishedWithErrors
  | failed
  deriving DecidableEq, Repr

namespace Status

/-- The name of a status in messages. -/
def name : Status → String
  | notReady => "not-ready"
  | ready => "ready"
  | unavailable => "unavailable"
  | preparing => "preparing"
  | running => "running"
  | finished => "finished"
  | finishedWithErrors => "finished-with-errors"
  | failed => "failed"

/-- What a user is told about a status. -/
def message : Status → String
  | notReady => "Loading Python runtime..."
  | ready => "Python runtime ready."
  | unavailable => "Python runtime not available."
  | preparing => "Preparing sandbox..."
  | running => "Running code in sandbox..."
  | finished => "Execution finished."
  | finishedWithErrors => "Execution finished with errors."
  | failed => "Execution failed."

/-- The status in which a run with this result ends. -/
def ofResult (result : RunResult) : Status :=
  match result.failure with
  | none => finished
  | some failure => if failure.category = .unexpected then failed else finishedWithErrors

end Status

/-- Who hears of changes of the status. -/
inductive Listener
  /-- Nobody was named. -/
  | absent
  /-- Somebody was named, but no longer listens. -/
  | gone
  /-- Somebody listens, and has not yet taken these. -/
  | waiting (statuses : List Status)
  deriving DecidableEq, Repr

/-- Tells the listener of a status. -/
def Listener.hear (status : Status) : Listener → Listener
  | absent => absent
  | gone => gone
  | waiting statuses => waiting (statuses ++ [status])

/-- Takes what the listener has heard since the last time. -/
def Listener.take : Listener → List Status × Listener
  | absent => ([], absent)
  | gone => ([], gone)
  | waiting statuses => (statuses, waiting [])

/-- A coordinator and the state of its interpreter. -/
structure Coordinator (σ : Type) where
  interpreter : σ
  status : Status
  /-- The text of the boot error, after a boot that failed. -/
  bootError : Option String
  listener : Listener

namespace Coordinator

variable {σ ι : Type}

/-- A coordinator of an interpreter that was never booted. -/
def new (interpreter : σ) (listener : Listener) : Coordinator σ :=
  ⟨interpreter, .notReady, none, listener⟩

/-- Whether the interpreter is booted. -/
def isReady (c : Coordinator σ) : Bool :=
  c.status != .notReady && c.status != .unavailable

/-- Enters a status and publishes it. -/
def enter (c : Coordinator σ) (status : Status) : Coordinator σ :=
  { c with status, listener := c.listener.hear status }

/-- Boots the interpreter, and tells whether it can be used. -/
def boot (interpreter : Interpreter σ) (c : Coordinator σ) : Bool × Coordinator σ :=
  match interpreter.boot c.interpreter with
  | (.ok (), state) => (true, { c with interpreter := state, bootError := none }.enter .ready)
  | (.error e, state) =>
    (false, { c with interpreter := state, bootError := some e.message }.enter .unavailable)

/-- The result of a run that cannot take place. -/
def refuse (c : Coordinator σ) : RunResult × Coordinator σ :=
  (⟨"", some (.unexpected (c.bootError.getD Status.unavailable.message))⟩, c.enter .unavailable)

/-- Runs a program on an interpreter that is booted. -/
def runReady (interpreter : Interpreter σ) (who : Answerer ι) (c : Coordinator σ)
    (source : String) (answers : ι) : RunResult × Coordinator σ × ι :=
  let c := (c.enter .preparing).enter .running
  let (result, state, answers) := interpreter.runOnce who source c.interpreter answers
  (result, { c with interpreter := state }.enter (.ofResult result), answers)

/-- Runs a program, after booting an interpreter that was never booted. -/
def run (interpreter : Interpreter σ) (who : Answerer ι) (c : Coordinator σ) (source : String)
    (answers : ι) : RunResult × Coordinator σ × ι :=
  match c.status with
  | .notReady =>
    let (ready, c) := c.boot interpreter
    if ready then c.runReady interpreter who source answers
    else
      let (result, c) := c.refuse
      (result, c, answers)
  | .unavailable =>
    let (result, c) := c.refuse
    (result, c, answers)
  | _ => c.runReady interpreter who source answers

/-- Takes the statuses that were published since the last time. -/
def takeStatuses (c : Coordinator σ) : List Status × Coordinator σ :=
  (c.listener.take.1, { c with listener := c.listener.take.2 })

end Coordinator

end Tutor
