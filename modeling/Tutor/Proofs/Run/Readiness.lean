import Tutor.Proofs.Run.History

/-!
What a coordinator says of its interpreter between two calls.

`Reflects` ties the status and the boot error to the outcome of the last boot. A boot establishes
it whatever went before, and neither a refusal nor a run loses it, so it holds after any calls: a
coordinator is ready exactly when the last boot succeeded, and a refused run always has the text
of the last boot error at hand.
-/

namespace Tutor.Coordinator

variable {σ ι : Type}

/-- The status and the boot error of a coordinator whose interpreter was last booted with this
outcome. -/
def Reflects (c : Coordinator σ) : Option (Except BootError Unit) → Prop
  | none => c.status = .notReady ∧ c.bootError = none
  | some (.error e) => c.status = .unavailable ∧ c.bootError = some e.message
  | some (.ok _) =>
    c.status ∈ [.ready, .finished, .finishedWithErrors, .failed] ∧ c.bootError = none

/-! ## What it says -/

namespace Reflects

variable {c : Coordinator σ} {boot : Option (Except BootError Unit)}

theorem atRest (reflects : c.Reflects boot) : c.status ≠ .preparing ∧ c.status ≠ .running := by
  match boot with
  | none => simp [reflects.1]
  | some (.error e) => simp [reflects.1]
  | some (.ok _) => constructor <;> intro status <;> simp [Reflects, status] at reflects

theorem bootError_isSome (reflects : c.Reflects boot) :
    c.bootError.isSome = true ↔ c.status = .unavailable := by
  match boot with
  | none => simp [reflects.1, reflects.2]
  | some (.error e) => simp [reflects.1, reflects.2]
  | some (.ok _) =>
    simp only [reflects.2, Option.isSome_none, Bool.false_eq_true, false_iff]
    intro status
    simp [Reflects, status] at reflects

theorem of_bootError (reflects : c.Reflects boot) {text : String}
    (hasError : c.bootError = some text) : ∃ e, boot = some (.error e) ∧ text = e.message := by
  match boot with
  | none => cases reflects.2.symm.trans hasError
  | some (.error e) => exact ⟨e, rfl, Option.some.inj (hasError.symm.trans reflects.2)⟩
  | some (.ok _) => cases reflects.2.symm.trans hasError

theorem isReady_iff (reflects : c.Reflects boot) : c.isReady = true ↔ boot = some (.ok ()) := by
  match boot with
  | none => simp [isReady, reflects.1]
  | some (.error e) => simp [isReady, reflects.1]
  | some (.ok _) =>
    simp only [isReady, iff_true, Bool.and_eq_true, bne_iff_ne]
    constructor <;> intro status <;> simp [Reflects, status] at reflects

theorem of_status_unavailable (reflects : c.Reflects boot) (status : c.status = .unavailable) :
    ∃ text, c.bootError = some text :=
  Option.isSome_iff_exists.1 (reflects.bootError_isSome.2 status)

end Reflects

/-! ## One call -/

theorem new_reflects (state : σ) (listener : Listener) : (new state listener).Reflects none :=
  ⟨rfl, rfl⟩

/-- A boot settles everything, whatever went before. -/
theorem boot_reflects (interpreter : Interpreter σ) (c : Coordinator σ) :
    (c.boot interpreter).2.Reflects (some (interpreter.boot c.interpreter).1) := by
  rcases outcome : interpreter.boot c.interpreter with ⟨e | _, state⟩
  · rw [boot_of_error outcome]
    exact ⟨rfl, rfl⟩
  · rw [boot_of_ok outcome]
    exact ⟨by simp [enter], rfl⟩

/-- A refusal repeats the status of a coordinator that is unavailable. -/
theorem refuse_reflects {c : Coordinator σ} {boot : Option (Except BootError Unit)}
    (reflects : c.Reflects boot) (status : c.status = .unavailable) :
    c.refuse.2.Reflects boot := by
  match boot with
  | none => cases reflects.1.symm.trans status
  | some (.error e) => exact ⟨rfl, reflects.2⟩
  | some (.ok _) => simp [Reflects, status] at reflects

theorem ofResult_mem (result : RunResult) :
    Status.ofResult result ∈ [.finished, .finishedWithErrors, .failed] := by
  unfold Status.ofResult
  split
  · simp
  · split <;> simp

/-- A run on a booted interpreter ends in one of the three last statuses. -/
theorem runReady_status_mem (interpreter : Interpreter σ) (who : Answerer ι) (c : Coordinator σ)
    (source : String) (answers : ι) :
    (c.runReady interpreter who source answers).2.1.status ∈
      [.finished, .finishedWithErrors, .failed] :=
  ofResult_mem _

/-- A run on a booted interpreter does not touch the boot error. -/
theorem runReady_bootError (interpreter : Interpreter σ) (who : Answerer ι) (c : Coordinator σ)
    (source : String) (answers : ι) :
    (c.runReady interpreter who source answers).2.1.bootError = c.bootError := rfl

theorem runReady_reflects {interpreter : Interpreter σ} {c : Coordinator σ} {done : Unit}
    (reflects : c.Reflects (some (.ok done))) (who : Answerer ι) (source : String) (answers : ι) :
    (c.runReady interpreter who source answers).2.1.Reflects (some (.ok done)) :=
  ⟨List.mem_cons_of_mem _ (runReady_status_mem interpreter who c source answers),
    (runReady_bootError interpreter who c source answers).trans reflects.2⟩

theorem ensureBooted_status_ne (interpreter : Interpreter σ) (c : Coordinator σ) :
    (c.ensureBooted interpreter).status ≠ .notReady := by
  unfold ensureBooted
  split
  · rcases outcome : interpreter.boot c.interpreter with ⟨e | _, state⟩
    · rw [boot_of_error outcome]
      exact nofun
    · rw [boot_of_ok outcome]
      exact nofun
  · assumption

/-! ## All calls -/

section Recorded

variable {interpreter : Interpreter σ} {c : Coordinator (σ × List Occurrence)}

theorem boot_recorded_reflects :
    (c.boot interpreter.recorded).2.Reflects
      (lastBoot (c.boot interpreter.recorded).2.history) := by
  have reflects := boot_reflects interpreter.recorded c
  rw [(c.boot_recorded interpreter).2, lastBoot_append]
  exact reflects

theorem ensureBooted_reflects (reflects : c.Reflects (lastBoot c.history)) :
    (c.ensureBooted interpreter.recorded).Reflects
      (lastBoot (c.ensureBooted interpreter.recorded).history) := by
  unfold ensureBooted
  split
  · exact boot_recorded_reflects
  · exact reflects

theorem run_recorded_reflects (reflects : c.Reflects (lastBoot c.history)) (who : Answerer ι)
    (source : String) (answers : ι) :
    (c.run interpreter.recorded who source answers).2.1.Reflects
      (lastBoot (c.run interpreter.recorded who source answers).2.1.history) := by
  have booted : (c.ensureBooted interpreter.recorded).Reflects
      (lastBoot (c.ensureBooted interpreter.recorded).history) := ensureBooted_reflects reflects
  rw [run_eq]
  simp only
  split
  · rename_i status
    exact refuse_reflects booted status
  · rename_i available
    -- A booted coordinator that is not unavailable had a boot, and the last one succeeded.
    have ready : lastBoot (c.ensureBooted interpreter.recorded).history = some (.ok ()) := by
      rw [← booted.isReady_iff]
      simp [isReady, available, ensureBooted_status_ne]
    have history :=
      (c.ensureBooted interpreter.recorded).runReady_history interpreter who source answers
    rw [ready] at booted
    rw [history, lastBoot_append, ready]
    exact runReady_reflects booted who source answers

theorem perform_reflects (reflects : c.Reflects (lastBoot c.history)) (call : Call) :
    (c.perform interpreter.recorded call).Reflects
      (lastBoot (c.perform interpreter.recorded call).history) := by
  cases call with
  | boot => exact boot_recorded_reflects
  | run who source answers => exact run_recorded_reflects reflects who source answers

theorem performAll_reflects (reflects : c.Reflects (lastBoot c.history)) (calls : List Call) :
    (c.performAll interpreter.recorded calls).Reflects
      (lastBoot (c.performAll interpreter.recorded calls).history) := by
  induction calls generalizing c with
  | nil => exact reflects
  | cons call calls ih => exact ih (perform_reflects reflects call)

end Recorded

/-- A run that is refused has the text of the boot error for its failure. -/
theorem run_refused {interpreter : Interpreter σ} {c : Coordinator σ}
    {boot : Option (Except BootError Unit)}
    (reflects : (c.ensureBooted interpreter).Reflects boot) {who : Answerer ι} {source : String}
    {answers : ι}
    (refused : (c.run interpreter who source answers).2.1.status = .unavailable) :
    ∃ text, (c.run interpreter who source answers).2.1.bootError = some text ∧
      (c.run interpreter who source answers).1 = ⟨"", some (.unexpected text)⟩ := by
  rw [run_eq] at refused ⊢
  simp only at refused ⊢
  split at refused
  · rename_i status
    obtain ⟨text, hasError⟩ := reflects.of_status_unavailable status
    rw [if_pos status]
    exact ⟨text, hasError, by rw [refuse, hasError, Option.getD_some]⟩
  · have ended := runReady_status_mem interpreter who (c.ensureBooted interpreter) source answers
    rw [refused] at ended
    simp at ended

/-- After any calls a coordinator is at rest, has a boot error exactly while it is unavailable, and
then that of the last boot; it is ready exactly when there was a boot and the last one succeeded.
A run that is refused then fails with the text of a boot error, never with a text in its place. -/
theorem last_boot_decides (interpreter : Interpreter σ) (state : σ) (listener : Listener)
    (calls : List Call) :
    let c := (new state listener).performAll interpreter calls
    let recorded := (new (state, []) listener).performAll interpreter.recorded calls
    recorded.forget = c ∧
      c.status ≠ .preparing ∧ c.status ≠ .running ∧
      (c.bootError.isSome = true ↔ c.status = .unavailable) ∧
      (∀ text, c.bootError = some text →
        ∃ e, lastBoot recorded.history = some (.error e) ∧ text = e.message) ∧
      (c.isReady = true ↔ lastBoot recorded.history = some (.ok ())) ∧
      ∀ {ι : Type} (who : Answerer ι) (source : String) (answers : ι),
        let (result, after, _) := c.run interpreter who source answers
        after.status = .unavailable →
          ∃ text, after.bootError = some text ∧ result = ⟨"", some (.unexpected text)⟩ := by
  intro c recorded
  have same : recorded.forget = c := performAll_recorded interpreter _ calls
  have settled : recorded.Reflects (lastBoot recorded.history) :=
    performAll_reflects (c := new (state, []) listener) (new_reflects _ listener) calls
  have reflects : c.Reflects (lastBoot recorded.history) := by
    rw [← same]
    exact settled
  refine ⟨same, reflects.atRest.1, reflects.atRest.2, reflects.bootError_isSome,
    fun text hasError => reflects.of_bootError hasError, reflects.isReady_iff, ?_⟩
  intro ι who source answers
  have plain : (c.ensureBooted interpreter).Reflects
      (lastBoot (recorded.ensureBooted interpreter.recorded).history) := by
    rw [← same, ← ensureBooted_recorded]
    exact ensureBooted_reflects settled
  exact run_refused plain

end Tutor.Coordinator
