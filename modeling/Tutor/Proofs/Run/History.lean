import Tutor.Run.Coordinator

/-!
A coordinator with the history of its interpreter.

An interpreter refines another if it does the same with a state that says more; a coordinator cannot
tell the two apart (`Coordinator.run_refines`). `Interpreter.recorded` refines the interpreter it is
made from and writes down every call in its state, so what holds of the history of the one holds of
the calls that reach the other (`performAll_recorded`).
-/

namespace Tutor

variable {σ τ ι : Type}

/-- A call of an interpreter, and how it ended. -/
inductive Occurrence
  | booted (outcome : Except BootError Unit)
  | executed (source : String) (outcome : Except RunError Unit)

/-- How the most recent boot ended, if there was one. -/
def lastBoot : List Occurrence → Option (Except BootError Unit)
  | [] => none
  | .booted outcome :: later => (lastBoot later).or (some outcome)
  | .executed .. :: later => lastBoot later

theorem lastBoot_append (earlier later : List Occurrence) :
    lastBoot (earlier ++ later) = (lastBoot later).or (lastBoot earlier) := by
  induction earlier with
  | nil => simp [lastBoot]
  | cons occurrence earlier ih =>
    cases occurrence with
    | booted outcome => simp [lastBoot, ih]
    | executed source outcome => simp [lastBoot, ih]

/-- The same interpreter, with all its calls so far in the second part of its state. -/
def Interpreter.recorded (interpreter : Interpreter σ) : Interpreter (σ × List Occurrence) where
  boot state :=
    let (outcome, next) := interpreter.boot state.1
    (outcome, next, state.2 ++ [.booted outcome])
  execute source state :=
    (interpreter.execute source state.1).map fun (outcome, next) =>
      (outcome, next, state.2 ++ [.executed source outcome])

theorem Interpreter.recorded_boot {interpreter : Interpreter σ} {state : σ × List Occurrence}
    {outcome : Except BootError Unit} {next : σ}
    (boots : interpreter.boot state.1 = (outcome, next)) :
    interpreter.recorded.boot state = (outcome, next, state.2 ++ [.booted outcome]) := by
  simp only [recorded, boots]

theorem Dialogue.play_map {α β : Type} (f : α → β) (who : Answerer ι) (dialogue : Dialogue α)
    (answers : ι) :
    (dialogue.map f).play who answers =
      ⟨(dialogue.play who answers).chunks, f (dialogue.play who answers).result,
        (dialogue.play who answers).answers⟩ := by
  induction dialogue generalizing answers with
  | done result => rfl
  | say chunk next ih => simp only [Dialogue.map, Dialogue.play, ih]
  | ask prompt next ih => simp only [Dialogue.map, Dialogue.play, ih]

theorem Dialogue.map_map {α β γ : Type} (f : α → β) (g : β → γ) (dialogue : Dialogue α) :
    (dialogue.map f).map g = dialogue.map fun result => g (f result) := by
  induction dialogue with
  | done result => rfl
  | say chunk next ih => simp only [map, ih]
  | ask prompt next ih => simp only [map, ih]

theorem Dialogue.map_id {α : Type} (dialogue : Dialogue α) :
    (dialogue.map fun result => result) = dialogue := by
  induction dialogue with
  | done result => rfl
  | say chunk next ih => rw [map, ih]
  | ask prompt next ih => simp only [map, ih]

/-- Does what another interpreter does, in a state that says more. -/
structure Interpreter.Refines (fine : Interpreter τ) (coarse : Interpreter σ) (forget : τ → σ) :
    Prop where
  boot : ∀ state, coarse.boot (forget state) =
    ((fine.boot state).1, forget (fine.boot state).2)
  execute : ∀ source state, coarse.execute source (forget state) =
    (fine.execute source state).map fun (outcome, next) => (outcome, forget next)

theorem Interpreter.recorded_refines (interpreter : Interpreter σ) :
    interpreter.recorded.Refines interpreter Prod.fst where
  boot _ := rfl
  execute source state := by
    rw [recorded, Dialogue.map_map]
    exact (Dialogue.map_id _).symm

namespace Coordinator

/-- A call of a coordinator; each run brings its own answers. -/
inductive Call : Type 1
  | boot
  | run {ι : Type} (who : Answerer ι) (source : String) (answers : ι)

/-- The coordinator after a call. -/
def perform (interpreter : Interpreter σ) (c : Coordinator σ) : Call → Coordinator σ
  | .boot => (c.boot interpreter).2
  | .run who source answers => (c.run interpreter who source answers).2.1

/-- The coordinator after several calls. -/
def performAll (interpreter : Interpreter σ) (c : Coordinator σ) (calls : List Call) :
    Coordinator σ :=
  calls.foldl (perform interpreter) c

/-- The calls of the interpreter so far. -/
def history (c : Coordinator (σ × List Occurrence)) : List Occurrence := c.interpreter.2

/-- The coordinator without the history. -/
def forget (c : Coordinator (σ × List Occurrence)) : Coordinator σ :=
  { c with interpreter := c.interpreter.1 }

/-! ## One call at a time -/

theorem boot_of_ok {interpreter : Interpreter σ} {c : Coordinator σ} {state : σ}
    (boots : interpreter.boot c.interpreter = (.ok (), state)) :
    c.boot interpreter =
      (true, { c with interpreter := state, bootError := none }.enter .ready) := by
  rw [boot, boots]

theorem boot_of_error {interpreter : Interpreter σ} {c : Coordinator σ} {e : BootError} {state : σ}
    (fails : interpreter.boot c.interpreter = (.error e, state)) :
    c.boot interpreter =
      (false,
        { c with interpreter := state, bootError := some e.message }.enter .unavailable) := by
  rw [boot, fails]

/-- The coordinator whose interpreter has been booted if it never was. -/
def ensureBooted (interpreter : Interpreter σ) (c : Coordinator σ) : Coordinator σ :=
  if c.status = .notReady then (c.boot interpreter).2 else c

theorem ensureBooted_of_notReady {interpreter : Interpreter σ} {c : Coordinator σ}
    (status : c.status = .notReady) : c.ensureBooted interpreter = (c.boot interpreter).2 :=
  if_pos status

theorem ensureBooted_of_ne {interpreter : Interpreter σ} {c : Coordinator σ}
    (status : c.status ≠ .notReady) : c.ensureBooted interpreter = c :=
  if_neg status

/-- A run is refused exactly where the interpreter is unavailable once it has been booted. -/
theorem run_eq (interpreter : Interpreter σ) (who : Answerer ι) (c : Coordinator σ)
    (source : String) (answers : ι) :
    c.run interpreter who source answers =
      let booted := c.ensureBooted interpreter
      if booted.status = .unavailable then (booted.refuse.1, booted.refuse.2, answers)
      else booted.runReady interpreter who source answers := by
  unfold run ensureBooted
  cases status : c.status with
  | notReady =>
    rcases outcome : interpreter.boot c.interpreter with ⟨e | _, state⟩
    · rw [boot_of_error outcome]
      rfl
    · rw [boot_of_ok outcome]
      rfl
  | unavailable => simp [status]
  | _ => simp [status]

/-! ## A state that says more changes nothing -/

section Refines

/-- The coordinator with its interpreter in another state. -/
def mapState (f : τ → σ) (c : Coordinator τ) : Coordinator σ :=
  { c with interpreter := f c.interpreter }

variable {fine : Interpreter τ} {coarse : Interpreter σ} {forget : τ → σ}
  (refines : fine.Refines coarse forget) (c : Coordinator τ)

include refines

theorem boot_refines :
    (c.mapState forget).boot coarse =
      ((c.boot fine).1, (c.boot fine).2.mapState forget) := by
  have same := refines.boot c.interpreter
  rcases outcome : fine.boot c.interpreter with ⟨e | _, state⟩
  · rw [outcome] at same
    rw [boot_of_error (c := c.mapState forget) same, boot_of_error outcome]
    rfl
  · rw [outcome] at same
    rw [boot_of_ok (c := c.mapState forget) same, boot_of_ok outcome]
    rfl

theorem ensureBooted_refines :
    (c.mapState forget).ensureBooted coarse = (c.ensureBooted fine).mapState forget := by
  have sameStatus : (c.mapState forget).status = c.status := rfl
  unfold ensureBooted
  rw [sameStatus]
  split
  · rw [boot_refines refines]
  · rfl

theorem runReady_refines (who : Answerer ι) (source : String) (answers : ι) :
    let run := c.runReady fine who source answers
    (c.mapState forget).runReady coarse who source answers =
      (run.1, run.2.1.mapState forget, run.2.2) := by
  have sameState : (((c.mapState forget).enter .preparing).enter .running).interpreter =
      forget ((c.enter .preparing).enter .running).interpreter := rfl
  simp only [runReady, Interpreter.runOnce, sameState, refines.execute, Dialogue.play_map]
  rfl

/-- A run of a coordinator is the same with an interpreter whose state says more. -/
theorem run_refines (who : Answerer ι) (source : String) (answers : ι) :
    let run := c.run fine who source answers
    (c.mapState forget).run coarse who source answers =
      (run.1, run.2.1.mapState forget, run.2.2) := by
  have sameStatus : ((c.ensureBooted fine).mapState forget).status =
      (c.ensureBooted fine).status := rfl
  simp only [run_eq, ensureBooted_refines refines, sameStatus]
  split
  · rfl
  · exact runReady_refines refines _ who source answers

theorem perform_refines (call : Call) :
    (c.mapState forget).perform coarse call = (c.perform fine call).mapState forget := by
  cases call with
  | boot => exact congrArg Prod.snd (boot_refines refines c)
  | run who source answers => exact congrArg (·.2.1) (run_refines refines c who source answers)

theorem performAll_refines (calls : List Call) :
    (c.mapState forget).performAll coarse calls = (c.performAll fine calls).mapState forget := by
  induction calls generalizing c with
  | nil => rfl
  | cons call calls ih =>
    have rest := ih (c.perform fine call)
    rwa [← perform_refines refines] at rest

end Refines

/-! ## The history changes nothing -/

variable (interpreter : Interpreter σ) (c : Coordinator (σ × List Occurrence))

theorem boot_recorded :
    (c.boot interpreter.recorded).2.forget = (c.forget.boot interpreter).2 ∧
      (c.boot interpreter.recorded).2.history =
        c.history ++ [.booted (interpreter.boot c.interpreter.1).1] := by
  refine ⟨(congrArg Prod.snd (boot_refines interpreter.recorded_refines c)).symm, ?_⟩
  rcases outcome : interpreter.boot c.interpreter.1 with ⟨e | _, state⟩
  · rw [boot_of_error (c := c) (Interpreter.recorded_boot outcome)]
    rfl
  · rw [boot_of_ok (c := c) (Interpreter.recorded_boot outcome)]
    rfl

theorem ensureBooted_recorded :
    (c.ensureBooted interpreter.recorded).forget = c.forget.ensureBooted interpreter :=
  (ensureBooted_refines interpreter.recorded_refines c).symm

theorem runReady_history (who : Answerer ι) (source : String) (answers : ι) :
    (c.runReady interpreter.recorded who source answers).2.1.history = c.history ++
      [.executed source ((interpreter.execute source c.interpreter.1).play who answers).result.1]
      := by
  simp only [runReady, Interpreter.runOnce, Interpreter.recorded, Dialogue.play_map]
  rfl

theorem run_recorded (who : Answerer ι) (source : String) (answers : ι) :
    let recorded := c.run interpreter.recorded who source answers
    let plain := c.forget.run interpreter who source answers
    recorded.1 = plain.1 ∧ recorded.2.1.forget = plain.2.1 ∧ recorded.2.2 = plain.2.2 := by
  have same := run_refines interpreter.recorded_refines c who source answers
  exact ⟨(congrArg Prod.fst same).symm, (congrArg (·.2.1) same).symm,
    (congrArg (·.2.2) same).symm⟩

/-- A coordinator does the same whether or not the calls of its interpreter are written down. -/
theorem performAll_recorded (calls : List Call) :
    (c.performAll interpreter.recorded calls).forget =
      c.forget.performAll interpreter calls :=
  (performAll_refines interpreter.recorded_refines c calls).symm

end Coordinator

end Tutor
