import Tutor.Proofs.Run.History

/-!
What a coordinator publishes.

`Passes` follows a coordinator from status to status: its interpreter and its boot error may change
silently, a status only by being entered. Whoever listens hears the statuses that were passed
through, all of them and in this order, and the last one is the coordinator's. `phases` lists them
for each call, and `perform_passes` says that a call passes through exactly these.
-/

namespace Tutor

/-- The status in which a boot with this outcome ends. -/
def Status.ofBoot : Except BootError Unit → Status
  | .ok _ => .ready
  | .error _ => .unavailable

theorem Listener.foldl_hear_waiting (statuses heard : List Status) :
    statuses.foldl (fun (listener : Listener) status => listener.hear status) (waiting heard) =
      waiting (heard ++ statuses) := by
  induction statuses generalizing heard with
  | nil => rw [List.append_nil, List.foldl_nil]
  | cons status statuses ih =>
    rw [List.foldl_cons, hear, ih, List.append_assoc]
    rfl

namespace Coordinator

variable {σ ι : Type}

/-- One coordinator passes through these statuses, in this order, and becomes the other. -/
inductive Passes : Coordinator σ → List Status → Coordinator σ → Prop
  | refl {c : Coordinator σ} : Passes c [] c
  | work {c after : Coordinator σ} {statuses : List Status} (interpreter : σ)
    (bootError : Option String) :
    Passes c statuses after → Passes c statuses { after with interpreter, bootError }
  | enter {c after : Coordinator σ} {statuses : List Status} (status : Status) :
    Passes c statuses after → Passes c (statuses ++ [status]) (after.enter status)

namespace Passes

variable {c middle after : Coordinator σ} {statuses more : List Status}

theorem trans (first : Passes c statuses middle) (second : Passes middle more after) :
    Passes c (statuses ++ more) after := by
  induction second with
  | refl => rwa [List.append_nil]
  | work interpreter bootError _ ih => exact .work interpreter bootError ih
  | enter status _ ih =>
    rw [← List.append_assoc]
    exact .enter status ih

/-- A listener hears each status once and in order, behind what it has heard before. -/
theorem listener_eq (passes : Passes c statuses after) :
    after.listener = statuses.foldl (fun listener status => listener.hear status) c.listener := by
  induction passes with
  | refl => rfl
  | work interpreter bootError _ ih => exact ih
  | enter status _ ih =>
    rw [List.foldl_append, ← ih]
    rfl

theorem listener_of_waiting (passes : Passes c statuses after) {heard : List Status}
    (waiting : c.listener = .waiting heard) : after.listener = .waiting (heard ++ statuses) := by
  rw [passes.listener_eq, waiting, Listener.foldl_hear_waiting]

/-- A status is left only by entering another, so the last one that was entered is there. -/
theorem status_eq (passes : Passes c statuses after) :
    after.status = statuses.getLast?.getD c.status := by
  induction passes with
  | refl => rfl
  | work interpreter bootError _ ih => exact ih
  | enter status _ _ =>
    rw [List.getLast?_concat, Option.getD_some]
    rfl

end Passes

/-- The statuses that a call passes through, in order. -/
def phases (interpreter : Interpreter σ) (c : Coordinator σ) : Call → List Status
  | .boot => [.ofBoot (interpreter.boot c.interpreter).1]
  | .run who source answers =>
    let booted := c.ensureBooted interpreter
    let boots := if c.status = .notReady then [booted.status] else []
    if booted.status = .unavailable then boots ++ [.unavailable]
    else
      boots ++
        [.preparing, .running, .ofResult (booted.runReady interpreter who source answers).1]

variable (interpreter : Interpreter σ) (c : Coordinator σ)

theorem boot_passes :
    Passes c [.ofBoot (interpreter.boot c.interpreter).1] (c.boot interpreter).2 := by
  have silent : Passes c [] c := .refl
  rcases outcome : interpreter.boot c.interpreter with ⟨e | _, state⟩
  · rw [boot_of_error outcome]
    exact .enter _ (.work state (some e.message) silent)
  · rw [boot_of_ok outcome]
    exact .enter _ (.work state none silent)

theorem boot_status :
    (c.boot interpreter).2.status = .ofBoot (interpreter.boot c.interpreter).1 :=
  (c.boot_passes interpreter).status_eq

theorem ensureBooted_passes :
    Passes c (if c.status = .notReady then [(c.ensureBooted interpreter).status] else [])
      (c.ensureBooted interpreter) := by
  unfold ensureBooted
  split
  · rw [boot_status]
    exact c.boot_passes interpreter
  · exact .refl

theorem refuse_passes : Passes c [.unavailable] c.refuse.2 :=
  .enter .unavailable .refl

theorem runReady_passes (who : Answerer ι) (source : String) (answers : ι) :
    Passes c
      [.preparing, .running, .ofResult (c.runReady interpreter who source answers).1]
      (c.runReady interpreter who source answers).2.1 := by
  have begun : Passes c [.preparing, .running] ((c.enter .preparing).enter .running) :=
    .enter .running (.enter .preparing .refl)
  exact .enter _ (.work _ _ begun)

theorem perform_passes (call : Call) :
    Passes c (c.phases interpreter call) (c.perform interpreter call) := by
  cases call with
  | boot => exact c.boot_passes interpreter
  | run who source answers =>
    have booted := c.ensureBooted_passes interpreter
    rw [perform, run_eq]
    simp only [phases]
    split
    · exact booted.trans (refuse_passes _)
    · exact booted.trans (runReady_passes interpreter _ who source answers)

theorem phases_ne_nil (call : Call) : c.phases interpreter call ≠ [] := by
  cases call with
  | boot => simp [phases]
  | run who source answers =>
    simp only [phases]
    split <;> simp

/-- The last status of a call is the one in which it leaves the coordinator. -/
theorem phases_getLast? (call : Call) :
    (c.phases interpreter call).getLast? = some (c.perform interpreter call).status := by
  obtain ⟨last, isLast⟩ := Option.isSome_iff_exists.1
    (List.getLast?_isSome.2 (c.phases_ne_nil interpreter call))
  rw [(c.perform_passes interpreter call).status_eq, isLast, Option.getD_some]

end Coordinator

end Tutor
