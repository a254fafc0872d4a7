import Mathlib.Logic.Basic
import Tutor.Proofs.Failure.Category
import Tutor.Proofs.Run.Discipline

/-!
What the status behind a run tells.

A coordinator chooses it by the category of the failure alone. `Verdict` says what it should be
chosen by: a run is refused without an execution, or it executes the program once and shows how that
ended. `run_verdict` ties every run to one of the two, and the characterizations of the four
statuses follow from it by cases (`status_tells_outcome`).
-/

namespace Tutor

/-- The status in which a run ends whose execution had this outcome. -/
def Status.ofExecution : Except RunError Unit → Status
  | .ok _ => .finished
  | .error (.program _) => .finishedWithErrors
  | .error (.infrastructure _) => .failed

/-- The category of the failure tells what became of the execution, whatever the program wrote and
whatever its error report says. -/
theorem Status.ofResult_ofOutcome (captured : String) (outcome : Except RunError Unit) :
    ofResult (.ofOutcome captured outcome) = ofExecution outcome := by
  cases outcome with
  | ok _ => rfl
  | error e =>
    cases e with
    | program report => exact if_neg (FailureInfo.ofProgramError_category_ne report)
    | infrastructure report => rfl

theorem Status.ofExecution_eq_finished {outcome : Except RunError Unit} :
    ofExecution outcome = .finished ↔ outcome = .ok () := by
  rcases outcome with (report | report) | done <;> simp [ofExecution]

theorem Status.ofExecution_eq_finishedWithErrors {outcome : Except RunError Unit} :
    ofExecution outcome = .finishedWithErrors ↔ ∃ report, .error (.program report) = outcome := by
  rcases outcome with (report | report) | done <;> simp [ofExecution]

theorem Status.ofExecution_eq_failed {outcome : Except RunError Unit} :
    ofExecution outcome = .failed ↔ ∃ report, .error (.infrastructure report) = outcome := by
  rcases outcome with (report | report) | done <;> simp [ofExecution]

theorem Status.ofExecution_ne_unavailable (outcome : Except RunError Unit) :
    ofExecution outcome ≠ .unavailable := by
  rcases outcome with (report | report) | done <;> exact nofun

/-- Nothing but boots reached the interpreter. -/
def OnlyBoots (asked : List Occurrence) : Prop :=
  ∀ occurrence ∈ asked, occurrence.isBoot = true

theorem OnlyBoots.not_mem {asked : List Occurrence} (booted : OnlyBoots asked) {source : String}
    {outcome : Except RunError Unit} : Occurrence.executed source outcome ∉ asked :=
  fun member => nomatch booted _ member

/-- What a run amounts to that asked this of the interpreter: its result and the status behind
it. -/
inductive Verdict (source : String) : List Occurrence → RunResult → Status → Prop
  /-- The program was not executed. -/
  | refused {asked : List Occurrence} {text : String} :
    OnlyBoots asked → Verdict source asked ⟨"", some (.unexpected text)⟩ .unavailable
  /-- The program was executed, and nothing but boots came before. -/
  | executed {boots : List Occurrence} {captured : String} {outcome : Except RunError Unit} :
    OnlyBoots boots →
    Verdict source (boots ++ [.executed source outcome]) (.ofOutcome captured outcome)
      (.ofExecution outcome)

/-! ## What a verdict says -/

namespace Verdict

variable {source : String} {asked : List Occurrence} {result : RunResult} {status : Status}

/-- The status is told by the execution, or by there being none. -/
theorem status_eq_iff (verdict : Verdict source asked result status) {told : Status} :
    status = told ↔
      told = .unavailable ∧ OnlyBoots asked ∨
        ∃ outcome, .ofExecution outcome = told ∧ .executed source outcome ∈ asked := by
  cases verdict with
  | refused booted =>
    constructor
    · rintro rfl
      exact .inl ⟨rfl, booted⟩
    · rintro (⟨rfl, -⟩ | ⟨outcome, -, member⟩)
      · rfl
      · exact absurd member booted.not_mem
  | @executed boots _ outcome booted =>
    have only (other : Except RunError Unit) : Occurrence.executed source other ∈
        boots ++ [.executed source outcome] ↔ other = outcome := by
      have none : Occurrence.executed source other ∉ boots := booted.not_mem
      simp [none]
    have some : ¬ OnlyBoots (boots ++ [.executed source outcome]) :=
      fun booted => booted.not_mem (List.mem_append_right boots List.mem_cons_self)
    simp [only, some]

theorem finished_iff (verdict : Verdict source asked result status) :
    status = .finished ↔ .executed source (.ok ()) ∈ asked := by
  rw [verdict.status_eq_iff]
  simp [Status.ofExecution_eq_finished]

theorem finishedWithErrors_iff (verdict : Verdict source asked result status) :
    status = .finishedWithErrors ↔
      ∃ report, .executed source (.error (.program report)) ∈ asked := by
  rw [verdict.status_eq_iff]
  simp [Status.ofExecution_eq_finishedWithErrors]

theorem failed_iff (verdict : Verdict source asked result status) :
    status = .failed ↔ ∃ report, .executed source (.error (.infrastructure report)) ∈ asked := by
  rw [verdict.status_eq_iff]
  simp [Status.ofExecution_eq_failed]

theorem unavailable_iff (verdict : Verdict source asked result status) :
    status = .unavailable ↔ OnlyBoots asked := by
  rw [verdict.status_eq_iff]
  simp [Status.ofExecution_ne_unavailable]

theorem failure_eq_none_iff (verdict : Verdict source asked result status) :
    result.failure = none ↔ status = .finished := by
  cases verdict with
  | refused booted => simp
  | @executed boots captured outcome booted =>
    rcases outcome with (report | report) | done <;>
      simp [Status.ofExecution, RunResult.ofOutcome]

/-- Only what kept the program from being run is unexpected. -/
theorem unexpected_iff (verdict : Verdict source asked result status) :
    (∃ failure, result.failure = some failure ∧ failure.category = .unexpected) ↔
      status = .failed ∨ status = .unavailable := by
  cases verdict with
  | refused booted => simp [FailureInfo.unexpected_category]
  | @executed boots captured outcome booted =>
    rcases outcome with (report | report) | done
    · simp [Status.ofExecution, RunResult.ofOutcome, FailureInfo.ofProgramError_category_ne]
    · simp [Status.ofExecution, RunResult.ofOutcome, FailureInfo.unexpected_category]
    · simp [Status.ofExecution, RunResult.ofOutcome]

end Verdict

/-! ## Every run has one -/

namespace Coordinator

variable {σ ι : Type}

section Recorded

variable (interpreter : Interpreter σ) (c : Coordinator (σ × List Occurrence))

theorem ensureBooted_history :
    ∃ boots, OnlyBoots boots ∧
      (c.ensureBooted interpreter.recorded).history = c.history ++ boots := by
  unfold ensureBooted
  split
  · exact ⟨_, by simp [OnlyBoots, Occurrence.isBoot], (c.boot_recorded interpreter).2⟩
  · exact ⟨[], List.forall_mem_nil _, (List.append_nil _).symm⟩

theorem runReady_verdict (who : Answerer ι) (source : String) (answers : ι) :
    let run := c.runReady interpreter.recorded who source answers
    ∃ captured outcome, run.1 = .ofOutcome captured outcome ∧
      run.2.1.status = .ofExecution outcome ∧
      run.2.1.history = c.history ++ [.executed source outcome] := by
  simp only [runReady, Interpreter.runOnce, Interpreter.recorded, Dialogue.play_map]
  exact ⟨_, _, rfl, Status.ofResult_ofOutcome _ _, rfl⟩

theorem run_verdict (who : Answerer ι) (source : String) (answers : ι) :
    let run := c.run interpreter.recorded who source answers
    ∃ asked, run.2.1.history = c.history ++ asked ∧
      Verdict source asked run.1 run.2.1.status := by
  obtain ⟨boots, booted, history⟩ := c.ensureBooted_history interpreter
  simp only [run_eq]
  split
  · exact ⟨boots, history, .refused booted⟩
  · obtain ⟨captured, outcome, result, status, executed⟩ :=
      (c.ensureBooted interpreter.recorded).runReady_verdict interpreter who source answers
    refine ⟨boots ++ [.executed source outcome], ?_, ?_⟩
    · rw [executed, history, List.append_assoc]
    · rw [result, status]
      exact .executed booted

end Recorded

/-- Behind any calls and any run, the status is that of a run which has no failure, or whose program
was executed and reported an error of its own, or whose execution the interpreter could not
complete, or which was refused without an execution; each exactly there. A failure is unexpected in
the last two cases and in no other. -/
theorem status_tells_outcome (interpreter : Interpreter σ) (state : σ) (listener : Listener)
    (calls : List Call) (who : Answerer ι) (source : String) (answers : ι) :
    let c := (new state listener).performAll interpreter calls
    let recorded := (new (state, []) listener).performAll interpreter.recorded calls
    let (result, after, _) := c.run interpreter who source answers
    let behind := recorded.perform interpreter.recorded (.run who source answers)
    recorded.forget = c ∧ behind.forget = after ∧
      ∃ asked, behind.history = recorded.history ++ asked ∧
        (after.status = .finished ↔ result.failure = none) ∧
        (after.status = .finished ↔ .executed source (.ok ()) ∈ asked) ∧
        (after.status = .finishedWithErrors ↔
          ∃ report, .executed source (.error (.program report)) ∈ asked) ∧
        (after.status = .failed ↔
          ∃ report, .executed source (.error (.infrastructure report)) ∈ asked) ∧
        (after.status = .unavailable ↔ ∀ occurrence ∈ asked, occurrence.isBoot = true) ∧
        ((∃ failure, result.failure = some failure ∧ failure.category = .unexpected) ↔
          after.status = .failed ∨ after.status = .unavailable) := by
  intro c recorded
  have same : recorded.forget = c := performAll_recorded interpreter _ calls
  obtain ⟨result, after, -⟩ := recorded.run_recorded interpreter who source answers
  obtain ⟨asked, history, verdict⟩ := recorded.run_verdict interpreter who source answers
  rw [same] at result after
  have status : (c.run interpreter who source answers).2.1.status =
      (recorded.run interpreter.recorded who source answers).2.1.status := by
    rw [← after]
    rfl
  rw [result, ← status] at verdict
  exact ⟨same, after, asked, history, verdict.failure_eq_none_iff.symm, verdict.finished_iff,
    verdict.finishedWithErrors_iff, verdict.failed_iff, verdict.unavailable_iff,
    verdict.unexpected_iff⟩

end Coordinator

end Tutor
