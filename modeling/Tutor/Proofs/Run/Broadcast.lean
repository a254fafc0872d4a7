import Tutor.Proofs.Run.Agreement
import Tutor.Proofs.Run.Publication
import Tutor.Proofs.Run.Verdict

/-!
What a listener hears over a whole history, and that it makes no difference who listens.

What a run asks of its interpreter settles what it publishes: each boot and each execution comes
with statuses of its own (`Occurrence.phases`), and a run that executes nothing ends by being
refused (`run_phases`). `Publishes` is the table of what this comes to. Behind it everything is about
statuses alone: `Accounts` holds of each row of the table and of one row behind another, so it holds
of all that was ever heard (`performAll_accounts`).
-/

namespace Tutor

/-- The statuses that come with a call of the interpreter. -/
def Occurrence.phases : Occurrence → List Status
  | booted outcome => [.ofBoot outcome]
  | executed _ outcome => [.preparing, .running, .ofExecution outcome]

/-- The statuses in which a program that was executed may leave a coordinator. -/
def Status.terminal : List Status := [.finished, .finishedWithErrors, .failed]

theorem Status.ofExecution_mem_terminal (outcome : Except RunError Unit) :
    ofExecution outcome ∈ terminal := by
  rcases outcome with (report | report) | done <;> simp [ofExecution, terminal]

namespace Coordinator

variable {σ ι : Type}

/-! ## One call -/

/-- The statuses of a run that asked this of its interpreter. -/
def runPhases (asked : List Occurrence) : List Status :=
  asked.flatMap Occurrence.phases ++
    if asked.all Occurrence.isBoot = true then [.unavailable] else []

section Recorded

variable {interpreter : Interpreter σ} {c : Coordinator (σ × List Occurrence)}

theorem ensureBooted_phases (interpreter : Interpreter σ)
    (c : Coordinator (σ × List Occurrence)) :
    let booted := c.ensureBooted interpreter.recorded
    ∃ boots, booted.history = c.history ++ boots ∧ boots.all Occurrence.isBoot = true ∧
      (if c.status = .notReady then [booted.status] else []) =
        boots.flatMap Occurrence.phases := by
  unfold ensureBooted
  split
  · refine ⟨_, (c.boot_recorded interpreter).2, rfl, ?_⟩
    rw [boot_status]
    rfl
  · exact ⟨[], (List.append_nil _).symm, rfl, rfl⟩

/-- A run publishes what comes with its boot and its execution, and no more unless it is refused. -/
theorem run_phases {who : Answerer ι} {source : String} {answers : ι} {asked : List Occurrence}
    (history : (c.run interpreter.recorded who source answers).2.1.history =
      c.history ++ asked) :
    c.phases interpreter.recorded (.run who source answers) = runPhases asked := by
  obtain ⟨boots, added, onlyBoots, passed⟩ := ensureBooted_phases interpreter c
  rw [run_eq] at history
  simp only [phases, passed] at history ⊢
  split at history
  · rename_i refused
    have same : asked = boots := List.append_cancel_left (history.symm.trans added)
    rw [if_pos refused, same, runPhases, if_pos onlyBoots]
  · rename_i available
    obtain ⟨captured, outcome, result, -, executed⟩ :=
      (c.ensureBooted interpreter.recorded).runReady_verdict interpreter who source answers
    have same : asked = boots ++ [.executed source outcome] := by
      rw [executed, added, List.append_assoc] at history
      exact (List.append_cancel_left history).symm
    rw [if_neg available, same, result, Status.ofResult_ofOutcome]
    simp [runPhases, Occurrence.phases, Occurrence.isBoot]

end Recorded

/-- The statuses that a call publishes, by how the most recent boot before it has ended and by what
the call asks of the interpreter. -/
inductive Publishes :
    (last : Option (Except BootError Unit)) → Call → List Occurrence → List Status → Prop
  /-- A boot publishes whether it succeeded. -/
  | boot {last : Option (Except BootError Unit)} {outcome : Except BootError Unit} :
    Publishes last .boot [.booted outcome] [.ofBoot outcome]
  /-- A run on an interpreter that was never booted publishes its boot as well. -/
  | first {ι : Type} {who : Answerer ι} {source : String} {answers : ι}
    {outcome : Except RunError Unit} :
    Publishes none (.run who source answers) [.booted (.ok ()), .executed source outcome]
      [.ready, .preparing, .running, .ofExecution outcome]
  | firstFails {ι : Type} {who : Answerer ι} {source : String} {answers : ι} {e : BootError} :
    Publishes none (.run who source answers) [.booted (.error e)] [.unavailable, .unavailable]
  | ready {ι : Type} {who : Answerer ι} {source : String} {answers : ι}
    {outcome : Except RunError Unit} :
    Publishes (some (.ok ())) (.run who source answers) [.executed source outcome]
      [.preparing, .running, .ofExecution outcome]
  /-- A run behind a boot that failed only repeats that there is no interpreter. -/
  | refused {ι : Type} {who : Answerer ι} {source : String} {answers : ι} {e : BootError} :
    Publishes (some (.error e)) (.run who source answers) [] [.unavailable]

theorem Asks.publishes_run {last : Option (Except BootError Unit)} {who : Answerer ι}
    {source : String} {answers : ι} {asked : List Occurrence}
    (asks : Asks last (.run who source answers) asked) :
    Publishes last (.run who source answers) asked (runPhases asked) := by
  cases asks with
  | first => exact .first
  | firstFails => exact .firstFails
  | ready => exact .ready
  | refused => exact .refused

theorem perform_publishes {c : Coordinator (σ × List Occurrence)} (interpreter : Interpreter σ)
    (reflects : c.Reflects (lastBoot c.history)) (call : Call) :
    ∃ asked, (c.perform interpreter.recorded call).history = c.history ++ asked ∧
      Publishes (lastBoot c.history) call asked (c.phases interpreter.recorded call) := by
  cases call with
  | boot => exact ⟨_, (c.boot_recorded interpreter).2, .boot⟩
  | run who source answers =>
    obtain ⟨asked, history, asks⟩ :=
      perform_asks interpreter reflects (.run who source answers)
    rw [run_phases history]
    exact ⟨asked, history, asks.publishes_run⟩

/-! ## All calls -/

/-- Right before a program runs it is prepared, and right behind it has ended in one of the three
ways. -/
def RunsEnclosed (statuses : List Status) : Prop :=
  ∀ before after, statuses = before ++ .running :: after →
    before.getLast? = some .preparing ∧ ∃ ended ∈ Status.terminal, after.head? = some ended

/-- Statuses that tell of what an interpreter was asked: they enclose each run of a program, and
there is one run for each execution. -/
structure Accounts (statuses : List Status) (asked : List Occurrence) : Prop where
  enclosed : RunsEnclosed statuses
  count : statuses.count .running = asked.countP (!·.isBoot)

namespace Accounts

variable {statuses more : List Status} {asked others : List Occurrence}

theorem append (first : Accounts statuses asked) (second : Accounts more others) :
    Accounts (statuses ++ more) (asked ++ others) where
  enclosed := by
    intro before after split
    rcases List.append_eq_append_iff.1 split with ⟨inner, left, right⟩ | ⟨inner, left, right⟩
    · -- The program runs in the second part, and so does all that belongs to it.
      obtain ⟨announced, ended⟩ := second.enclosed inner after right
      rw [left, List.getLast?_append, announced]
      exact ⟨rfl, ended⟩
    · cases inner with
      | nil => cases (second.enclosed [] after right.symm).1
      | cons status inner =>
        obtain ⟨rfl, behind⟩ := List.cons.inj right
        obtain ⟨announced, ended, terminal, isHead⟩ := first.enclosed before inner left
        refine ⟨announced, ended, terminal, ?_⟩
        rw [behind, List.append_eq, List.head?_append, isHead]
        rfl
  count := by rw [List.count_append, List.countP_append, first.count, second.count]

/-- Without a program that runs there is nothing to account for, whatever was booted. -/
theorem idle (silent : .running ∉ statuses) (boots : asked.all Occurrence.isBoot = true) :
    Accounts statuses asked where
  enclosed := by
    intro before after split
    exact absurd (split ▸ List.mem_append_right before List.mem_cons_self) silent
  count := by
    rw [List.count_eq_zero_of_not_mem silent, eq_comm, List.countP_eq_zero]
    intro occurrence member
    simp [List.all_eq_true.1 boots occurrence member]

/-- The statuses of an execution enclose its run: how it ended is another status. -/
theorem execution (source : String) (outcome : Except RunError Unit) :
    Accounts [.preparing, .running, .ofExecution outcome] [.executed source outcome] := by
  have ended := Status.ofExecution_mem_terminal outcome
  have last : .running ∉ [Status.ofExecution outcome] := by
    intro member
    rw [← List.mem_singleton.1 member] at ended
    exact absurd ended (by decide)
  constructor
  · intro before after split
    rcases before with _ | ⟨announced, before⟩
    · cases (List.cons.inj split).1
    · obtain ⟨rfl, runs⟩ := List.cons.inj split
      rcases before with _ | ⟨first, before⟩
      · obtain ⟨-, rfl⟩ := List.cons.inj runs
        exact ⟨rfl, _, ended, rfl⟩
      · obtain ⟨-, ends⟩ := List.cons.inj runs
        rw [ends] at last
        exact absurd (List.mem_append_right before List.mem_cons_self) last
  · have others : [Status.ofExecution outcome].count .running = 0 :=
      List.count_eq_zero_of_not_mem last
    rw [List.count_cons, List.count_cons, others]
    rfl

/-- What a call publishes accounts for what it asks. -/
theorem of_publishes {last : Option (Except BootError Unit)} {call : Call}
    (publishes : Publishes last call asked statuses) : Accounts statuses asked := by
  cases publishes with
  | @boot _ outcome =>
    refine idle ?_ rfl
    cases outcome <;> exact List.not_mem_cons_of_ne_of_not_mem nofun List.not_mem_nil
  | @first _ _ source _ outcome =>
    have booted : Accounts [.ready] [.booted (.ok ())] := idle (by decide) rfl
    exact booted.append (execution source outcome)
  | firstFails => exact idle (by decide) rfl
  | ready => exact execution _ _
  | refused => exact idle (by decide) rfl

end Accounts

/-- The statuses that several calls pass through, one after another. -/
def allPhases (interpreter : Interpreter σ) (c : Coordinator σ) : List Call → List Status
  | [] => []
  | call :: calls =>
    c.phases interpreter call ++ allPhases interpreter (c.perform interpreter call) calls

theorem performAll_passes (interpreter : Interpreter σ) (c : Coordinator σ) (calls : List Call) :
    Passes c (c.allPhases interpreter calls) (c.performAll interpreter calls) := by
  induction calls generalizing c with
  | nil => exact .refl
  | cons call calls ih => exact (c.perform_passes interpreter call).trans (ih _)

theorem performAll_accounts {c : Coordinator (σ × List Occurrence)} (interpreter : Interpreter σ)
    (reflects : c.Reflects (lastBoot c.history)) (calls : List Call) :
    ∃ asked, (c.performAll interpreter.recorded calls).history = c.history ++ asked ∧
      Accounts (c.allPhases interpreter.recorded calls) asked := by
  induction calls generalizing c with
  | nil => exact ⟨[], (List.append_nil _).symm, .idle List.not_mem_nil rfl⟩
  | cons call calls ih =>
    obtain ⟨first, added, publishes⟩ := perform_publishes interpreter reflects call
    have next : (c.perform interpreter.recorded call).Reflects
        (lastBoot (c.perform interpreter.recorded call).history) := perform_reflects reflects call
    obtain ⟨rest, later, accounts⟩ := ih next
    refine ⟨first ++ rest, ?_, (Accounts.of_publishes publishes).append accounts⟩
    rw [← List.append_assoc, ← added]
    exact later

theorem allPhases_ne_nil (interpreter : Interpreter σ) (c : Coordinator σ) {calls : List Call}
    (nonempty : calls ≠ []) : c.allPhases interpreter calls ≠ [] := by
  cases calls with
  | nil => exact absurd rfl nonempty
  | cons call calls =>
    exact List.append_ne_nil_of_left_ne_nil (c.phases_ne_nil interpreter call) _

/-! ## Who listens -/

theorem performAll_silenced (interpreter : Interpreter σ) (c : Coordinator σ)
    (calls : List Call) :
    c.silenced.performAll interpreter calls = (c.performAll interpreter calls).silenced := by
  induction calls generalizing c with
  | nil => rfl
  | cons call calls ih =>
    have first : c.silenced.perform interpreter call =
        (c.perform interpreter call).silenced := by
      cases call with
      | boot => rw [perform, boot_silenced, perform]
      | run who source answers => rw [perform, run_silenced, perform]
    have rest := ih (c.perform interpreter call)
    rw [← first] at rest
    exact rest

/-- Two coordinators that differ at most in who listens are in the same state and do the same. -/
theorem same_of_silenced {c d : Coordinator σ} (same : d.silenced = c.silenced)
    (interpreter : Interpreter σ) :
    d.interpreter = c.interpreter ∧ d.status = c.status ∧ d.bootError = c.bootError ∧
      (d.boot interpreter).1 = (c.boot interpreter).1 ∧
      ∀ {ι : Type} (who : Answerer ι) (source : String) (answers : ι),
        (d.run interpreter who source answers).1 = (c.run interpreter who source answers).1 ∧
          (d.run interpreter who source answers).2.2 =
            (c.run interpreter who source answers).2.2 := by
  obtain ⟨state, status, bootError, -⟩ := Coordinator.mk.inj same
  refine ⟨state, status, bootError, ?_, ?_⟩
  · have booted := d.boot_silenced interpreter
    rw [same, boot_silenced] at booted
    exact (congrArg Prod.fst booted).symm
  · intro ι who source answers
    have ran := d.run_silenced interpreter who source answers
    rw [same, run_silenced] at ran
    exact ⟨(congrArg Prod.fst ran).symm, (congrArg (fun run => run.2.2) ran).symm⟩

/-- Whoever listens from the start hears, call by call, the statuses of the table and no others.
So over any history each run of a program stands right between its preparation and its end, there
are as many as executions, and the last status heard is the coordinator's. With another listener,
with none, or with one that has gone, all else is the same: the state of the coordinator and of its
interpreter, how a boot ends, and the result of a run and the answers that are left. -/
theorem publishes_by_call (interpreter : Interpreter σ) (state : σ) (calls : List Call) :
    let c := (new state (.waiting [])).performAll interpreter calls
    let recorded := (new (state, []) (.waiting [])).performAll interpreter.recorded calls
    recorded.forget = c ∧ c.Reflects (lastBoot recorded.history) ∧
      (∃ heard, c.listener = .waiting heard ∧
        (∀ call, ∃ asked statuses,
          (recorded.perform interpreter.recorded call).history = recorded.history ++ asked ∧
            (c.perform interpreter call).listener = .waiting (heard ++ statuses) ∧
            Publishes (lastBoot recorded.history) call asked statuses ∧
            statuses.getLast? = some (c.perform interpreter call).status) ∧
        RunsEnclosed heard ∧
        heard.count .running = recorded.history.countP (!·.isBoot) ∧
        (calls ≠ [] → heard.getLast? = some c.status)) ∧
      ∀ listener,
        let d := (new state listener).performAll interpreter calls
        d.interpreter = c.interpreter ∧ d.status = c.status ∧ d.bootError = c.bootError ∧
          (d.boot interpreter).1 = (c.boot interpreter).1 ∧
          ∀ {ι : Type} (who : Answerer ι) (source : String) (answers : ι),
            (d.run interpreter who source answers).1 = (c.run interpreter who source answers).1 ∧
              (d.run interpreter who source answers).2.2 =
                (c.run interpreter who source answers).2.2 := by
  intro c recorded
  let start : Coordinator (σ × List Occurrence) := new (state, []) (.waiting [])
  have unbooted : start.Reflects (lastBoot start.history) := new_reflects _ _
  have same : recorded.forget = c := performAll_recorded interpreter start calls
  have reflects : recorded.Reflects (lastBoot recorded.history) :=
    performAll_reflects unbooted calls
  have passes := performAll_passes interpreter.recorded start calls
  have waiting : recorded.listener = .waiting (start.allPhases interpreter.recorded calls) :=
    passes.listener_of_waiting rfl
  obtain ⟨asked, history, accounts⟩ := performAll_accounts interpreter unbooted calls
  refine ⟨same, ?_, ⟨start.allPhases interpreter.recorded calls, ?_, ?_, accounts.enclosed, ?_, ?_⟩,
    ?_⟩
  · rw [← same]
    exact reflects
  · rw [← same]
    exact waiting
  · intro call
    obtain ⟨asked, added, publishes⟩ := perform_publishes interpreter reflects call
    have after : (recorded.perform interpreter.recorded call).forget =
        c.perform interpreter call := by
      rw [← same]
      exact performAll_recorded interpreter recorded [call]
    refine ⟨asked, _, added, ?_, publishes, ?_⟩
    · rw [← after]
      exact (recorded.perform_passes interpreter.recorded call).listener_of_waiting waiting
    · rw [← after]
      exact recorded.phases_getLast? interpreter.recorded call
  · have sameHistory : recorded.history = asked := history
    rw [sameHistory]
    exact accounts.count
  · intro nonempty
    obtain ⟨last, isLast⟩ := Option.isSome_iff_exists.1
      (List.getLast?_isSome.2 (start.allPhases_ne_nil interpreter.recorded nonempty))
    have status : recorded.status = last := by
      rw [passes.status_eq, isLast, Option.getD_some]
    rw [isLast, ← same, ← status]
    rfl
  · intro listener d
    have silent : d.silenced = c.silenced := by
      rw [← performAll_silenced, ← performAll_silenced]
      rfl
    exact same_of_silenced silent interpreter

end Coordinator

end Tutor
