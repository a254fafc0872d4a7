import Tutor.Proofs.Failure.BlamedLine
import Tutor.Proofs.Run.Readiness

/-!
What a coordinator asks of its interpreter, call by call.

`Asks` says what reaches the interpreter while one call is performed, given the outcome of the most
recent boot before it; `AsksAll` strings these lists together. A coordinator keeps to it whatever
its interpreter answers (`performAll_asksAll`). That a program is executed only behind a boot that
succeeded, and that at most one run boots, are then facts about `AsksAll` alone. What a run comes to
that is refused is said field by field, by what the boot's error says (`run_of_lastBoot_error`).
-/

namespace Tutor

/-- Whether the interpreter was booted. -/
def Occurrence.isBoot : Occurrence → Bool
  | .booted _ => true
  | .executed .. => false

/-! ## What is told of a boot that failed -/

/-- What an error of a boot says. -/
inductive BootError.Tells : BootError → String → Prop
  | emptyCommand : Tells .emptyCommand "interpreter command is empty"
  | invalidCommand {line : String} :
    Tells (.invalidCommand line) ("could not parse interpreter command line: " ++ line)
  | notStarted {program reason : String} :
    Tells (.notStarted program reason) ("failed to start `" ++ program ++ "`: " ++ reason)
  | notReady {report : String} :
    Tells (.notReady report) ("interpreter did not report ready: " ++ report)

theorem BootError.tells_message (e : BootError) : e.Tells e.message := by
  cases e with
  | emptyCommand => exact .emptyCommand
  | invalidCommand line => exact .invalidCommand
  | notStarted program reason => exact .notStarted
  | notReady report => exact .notReady

/-- What is told of a program that could not be run at all, where this text says why: the text as it
is, and the line that it mentions, if it does. -/
structure FailureInfo.NotRun (text : String) (failure : FailureInfo) : Prop where
  rawMessage : failure.rawMessage = text
  category : failure.category = .unexpected
  friendlyMessage : failure.friendlyMessage = "Unexpected failure while running code."
  line : ∀ n, failure.line = some n ↔ NumberBehind "line " text.toList n
  hints : failure.hints = []

theorem FailureInfo.notRun_unexpected (text : String) : (unexpected text).NotRun text where
  rawMessage := rfl
  category := rfl
  friendlyMessage := rfl
  line _ := lineBehind_eq_some_iff
  hints := rfl

namespace Coordinator

variable {σ ι : Type}

/-- Whether a program is run. -/
def Call.isRun : Call → Bool
  | .boot => false
  | .run .. => true

/-- What reaches an interpreter whose most recent boot ended with `last`, if it had one, while a
call is performed. -/
inductive Asks : (last : Option (Except BootError Unit)) → Call → List Occurrence → Prop
  /-- An explicit boot boots, whatever went before. -/
  | boot {last : Option (Except BootError Unit)} {outcome : Except BootError Unit} :
    Asks last .boot [.booted outcome]
  /-- A run boots an interpreter that was never booted, and executes if that succeeds. -/
  | first {ι : Type} {who : Answerer ι} {source : String} {answers : ι}
    {outcome : Except RunError Unit} :
    Asks none (.run who source answers) [.booted (.ok ()), .executed source outcome]
  | firstFails {ι : Type} {who : Answerer ι} {source : String} {answers : ι} {e : BootError} :
    Asks none (.run who source answers) [.booted (.error e)]
  /-- Behind a boot that succeeded a run executes once. -/
  | ready {ι : Type} {who : Answerer ι} {source : String} {answers : ι}
    {outcome : Except RunError Unit} :
    Asks (some (.ok ())) (.run who source answers) [.executed source outcome]
  /-- Behind a boot that failed a run asks for nothing. -/
  | refused {ι : Type} {who : Answerer ι} {source : String} {answers : ι} {e : BootError} :
    Asks (some (.error e)) (.run who source answers) []

/-- What reaches an interpreter with this history while several calls are performed, call by
call. -/
inductive AsksAll : (history : List Occurrence) → List Call → List (List Occurrence) → Prop
  | nil {history : List Occurrence} : AsksAll history [] []
  | cons {history asked : List Occurrence} {call : Call} {calls : List Call}
    {rest : List (List Occurrence)} :
    Asks (lastBoot history) call asked → AsksAll (history ++ asked) calls rest →
    AsksAll history (call :: calls) (asked :: rest)

/-! ## What follows from the order of the calls -/

theorem Asks.executed_behind_boot {history asked before after : List Occurrence} {call : Call}
    {source : String} {outcome : Except RunError Unit}
    (asks : Asks (lastBoot history) call asked)
    (split : asked = before ++ .executed source outcome :: after) :
    lastBoot (history ++ before) = some (.ok ()) := by
  generalize last : lastBoot history = boot at asks
  cases asks with
  | boot => cases before <;> simp at split
  | first =>
    -- The only execution stands right behind the boot that succeeded.
    rcases before with _ | ⟨booted, _ | ⟨second, before⟩⟩
    · simp at split
    · obtain ⟨rfl, -⟩ := List.cons.inj split
      simp [lastBoot_append, lastBoot]
    · simp at split
  | firstFails => cases before <;> simp at split
  | ready =>
    cases before with
    | nil => rw [List.append_nil, last]
    | cons first before => simp at split
  | refused => cases before <;> cases split

/-- Every execution stands behind a boot, and the most recent one succeeded. -/
theorem AsksAll.executed_behind_boot {history before after : List Occurrence}
    {calls : List Call} {asked : List (List Occurrence)} {source : String}
    {outcome : Except RunError Unit} (asks : AsksAll history calls asked)
    (split : asked.flatten = before ++ .executed source outcome :: after) :
    lastBoot (history ++ before) = some (.ok ()) := by
  induction asks generalizing before with
  | nil => cases before <;> cases split
  | @cons history first call calls rest asks _ ih =>
    rw [List.flatten_cons] at split
    rcases List.append_eq_append_iff.1 split with ⟨inner, same, later⟩ | ⟨inner, same, later⟩
    · have behind := ih later
      rwa [List.append_assoc, ← same] at behind
    · cases inner with
      | nil =>
        have behind : lastBoot ((history ++ first) ++ []) = some (.ok ()) := ih later.symm
        rwa [same, List.append_nil, List.append_nil] at behind
      | cons occurrence inner =>
        obtain ⟨rfl, -⟩ := List.cons.inj later
        exact asks.executed_behind_boot same

theorem Asks.lastBoot_isSome {history asked : List Occurrence} {call : Call}
    (asks : Asks (lastBoot history) call asked) :
    (lastBoot (history ++ asked)).isSome = true := by
  generalize last : lastBoot history = boot at asks
  cases asks with
  | boot => simp [lastBoot_append, lastBoot]
  | first => simp [lastBoot_append, lastBoot]
  | firstFails => simp [lastBoot_append, lastBoot]
  | ready => simp [lastBoot_append, last]
  | refused => simp [last]

theorem Asks.run_boots_iff {last : Option (Except BootError Unit)} {call : Call}
    {asked : List Occurrence} (asks : Asks last call asked) (isRun : call.isRun = true) :
    asked.any Occurrence.isBoot = true ↔ last = none := by
  cases asks with
  | boot => cases isRun
  | first => simp [Occurrence.isBoot]
  | firstFails => simp [Occurrence.isBoot]
  | ready => simp [Occurrence.isBoot]
  | refused => simp

/-- The number of runs that boot the interpreter. -/
def bootingRuns (calls : List Call) (asked : List (List Occurrence)) : Nat :=
  (calls.zip asked).countP fun (call, asked) => call.isRun && asked.any Occurrence.isBoot

theorem bootingRuns_cons (call : Call) (calls : List Call) (asked : List Occurrence)
    (rest : List (List Occurrence)) :
    bootingRuns (call :: calls) (asked :: rest) =
      bootingRuns calls rest + if call.isRun && asked.any Occurrence.isBoot then 1 else 0 := by
  rw [bootingRuns, List.zip_cons_cons, List.countP_cons]
  rfl

theorem AsksAll.bootingRuns_eq_zero {history : List Occurrence} {calls : List Call}
    {asked : List (List Occurrence)} (asks : AsksAll history calls asked)
    (booted : (lastBoot history).isSome = true) : bootingRuns calls asked = 0 := by
  induction asks with
  | nil => rfl
  | @cons history first call calls rest asks _ ih =>
    have silent : (call.isRun && first.any Occurrence.isBoot) = false := by
      cases isRun : call.isRun with
      | false => rfl
      | true =>
        rw [Bool.true_and, Bool.eq_false_iff, Ne, asks.run_boots_iff isRun]
        intro never
        rw [never] at booted
        cases booted
    rw [bootingRuns_cons, silent, ih asks.lastBoot_isSome]
    rfl

/-- The first call leaves a booted interpreter behind, so at most this one is a run that boots. -/
theorem AsksAll.bootingRuns_le_one {history : List Occurrence} {calls : List Call}
    {asked : List (List Occurrence)} (asks : AsksAll history calls asked) :
    bootingRuns calls asked ≤ 1 := by
  cases asks with
  | nil => exact Nat.zero_le 1
  | cons first rest =>
    rw [bootingRuns_cons, rest.bootingRuns_eq_zero first.lastBoot_isSome]
    split <;> decide

/-! ## A coordinator keeps to it -/

section Recorded

variable {interpreter : Interpreter σ} {c : Coordinator (σ × List Occurrence)}

/-- A run adds nothing to the history where it is refused, and one execution elsewhere. -/
theorem run_history (interpreter : Interpreter σ) (c : Coordinator (σ × List Occurrence))
    (who : Answerer ι) (source : String) (answers : ι) :
    let booted := c.ensureBooted interpreter.recorded
    let after := (c.run interpreter.recorded who source answers).2.1
    booted.status = .unavailable ∧ after.history = booted.history ∨
      booted.status ≠ .unavailable ∧
        ∃ outcome, after.history = booted.history ++ [.executed source outcome] := by
  simp only [run_eq]
  by_cases status : (c.ensureBooted interpreter.recorded).status = .unavailable
  · rw [if_pos status]
    exact .inl ⟨status, rfl⟩
  · rw [if_neg status]
    have history :=
      (c.ensureBooted interpreter.recorded).runReady_history interpreter who source answers
    exact .inr ⟨status, _, history⟩

theorem run_asks (reflects : c.Reflects (lastBoot c.history)) (who : Answerer ι)
    (source : String) (answers : ι) :
    ∃ asked, (c.run interpreter.recorded who source answers).2.1.history = c.history ++ asked ∧
      Asks (lastBoot c.history) (.run who source answers) asked := by
  have run := run_history interpreter c who source answers
  match last : lastBoot c.history with
  | none =>
    rw [last] at reflects
    have history := (c.boot_recorded interpreter).2
    have settled := boot_reflects interpreter.recorded c
    rw [ensureBooted_of_notReady reflects.1] at run
    rcases run with ⟨status, same⟩ | ⟨status, outcome, same⟩
    · -- The run is refused, so its own boot has failed.
      obtain ⟨e, failed⟩ : ∃ e, (interpreter.recorded.boot c.interpreter).1 = .error e := by
        obtain ⟨text, hasError⟩ := settled.of_status_unavailable status
        obtain ⟨e, failed, -⟩ := settled.of_bootError hasError
        exact ⟨e, Option.some.inj failed⟩
      refine ⟨[.booted (.error e)], ?_, .firstFails⟩
      rw [same, history, ← failed]
      rfl
    · have succeeded : (interpreter.recorded.boot c.interpreter).1 = .ok () := by
        cases booted : (interpreter.recorded.boot c.interpreter).1 with
        | ok done => rfl
        | error e =>
          rw [booted] at settled
          exact absurd settled.1 status
      refine ⟨[.booted (.ok ()), .executed source outcome], ?_, .first⟩
      rw [same, history, ← succeeded, List.append_assoc]
      rfl
  | some (.ok ()) =>
    rw [last] at reflects
    have available : c.status ≠ .notReady ∧ c.status ≠ .unavailable := by
      constructor <;> intro status <;> simp [Reflects, status] at reflects
    rw [ensureBooted_of_ne available.1] at run
    rcases run with ⟨status, -⟩ | ⟨-, outcome, same⟩
    · exact absurd status available.2
    · exact ⟨_, same, .ready⟩
  | some (.error e) =>
    rw [last] at reflects
    have booted : c.status ≠ .notReady := by simp [reflects.1]
    rw [ensureBooted_of_ne booted] at run
    rcases run with ⟨-, same⟩ | ⟨status, -⟩
    · exact ⟨[], by rw [same, List.append_nil], .refused⟩
    · exact absurd reflects.1 status

theorem perform_asks (interpreter : Interpreter σ) (reflects : c.Reflects (lastBoot c.history))
    (call : Call) :
    ∃ asked, (c.perform interpreter.recorded call).history = c.history ++ asked ∧
      Asks (lastBoot c.history) call asked := by
  cases call with
  | boot => exact ⟨_, (c.boot_recorded interpreter).2, .boot⟩
  | run who source answers => exact run_asks reflects who source answers

theorem performAll_asksAll (interpreter : Interpreter σ)
    (reflects : c.Reflects (lastBoot c.history)) (calls : List Call) :
    ∃ asked, (c.performAll interpreter.recorded calls).history = c.history ++ asked.flatten ∧
      AsksAll c.history calls asked := by
  induction calls generalizing c with
  | nil => exact ⟨[], (List.append_nil _).symm, .nil⟩
  | cons call calls ih =>
    obtain ⟨first, added, asks⟩ := perform_asks interpreter reflects call
    have next : (c.perform interpreter.recorded call).Reflects
        (lastBoot (c.perform interpreter.recorded call).history) := perform_reflects reflects call
    obtain ⟨rest, same, asksRest⟩ := ih next
    rw [added] at asksRest same
    refine ⟨first :: rest, ?_, .cons asks asksRest⟩
    rw [List.flatten_cons, ← List.append_assoc]
    exact same

/-- A run behind a boot that failed, be it its own, is refused with what that boot's error says, and
leaves the answers alone. -/
theorem run_of_lastBoot_error (reflects : c.Reflects (lastBoot c.history)) {who : Answerer ι}
    {source : String} {answers : ι} {e : BootError}
    (failed : lastBoot (c.run interpreter.recorded who source answers).2.1.history =
      some (.error e)) :
    (∃ text failure, e.Tells text ∧ failure.NotRun text ∧
        (c.run interpreter.recorded who source answers).1 = ⟨"", some failure⟩) ∧
      (c.run interpreter.recorded who source answers).2.2 = answers := by
  let booted := c.ensureBooted interpreter.recorded
  have settled : booted.Reflects (lastBoot booted.history) := ensureBooted_reflects reflects
  rcases run_history interpreter c who source answers with ⟨status, same⟩ | ⟨status, outcome, same⟩
  · rw [same] at failed
    rw [failed] at settled
    have refusal : booted.refuse.1 = ⟨"", some (.unexpected e.message)⟩ := by
      rw [refuse, settled.2, Option.getD_some]
    rw [run_eq]
    simp only
    rw [if_pos status]
    exact ⟨⟨_, _, e.tells_message, FailureInfo.notRun_unexpected _, refusal⟩, rfl⟩
  · -- An execution would stand behind a boot that succeeded.
    rw [same, lastBoot_append] at failed
    have unbooted : lastBoot booted.history = some (.error e) := failed
    rw [unbooted] at settled
    exact absurd settled.1 status

end Recorded

/-- A program is executed only behind a boot that succeeded, and then once for each run. A run
boots only an interpreter that was never booted, so at most one does. A run behind a boot that
failed asks nothing of the interpreter and nothing of who answers; it has no output, and its failure
tells what that boot's error says. -/
theorem executes_only_booted (interpreter : Interpreter σ) (state : σ) (listener : Listener)
    (calls : List Call) :
    let c := (new state listener).performAll interpreter calls
    let recorded := (new (state, []) listener).performAll interpreter.recorded calls
    recorded.forget = c ∧
      (∃ asked, recorded.history = asked.flatten ∧ AsksAll [] calls asked ∧
        bootingRuns calls asked ≤ 1) ∧
      (∀ before source outcome after,
        recorded.history = before ++ .executed source outcome :: after →
          lastBoot before = some (.ok ())) ∧
      ∀ {ι : Type} (who : Answerer ι) (source : String) (answers : ι) (e : BootError),
        lastBoot (recorded.perform interpreter.recorded (.run who source answers)).history =
            some (.error e) →
          (∃ text failure, e.Tells text ∧ failure.NotRun text ∧
              (c.run interpreter who source answers).1 = ⟨"", some failure⟩) ∧
            (c.run interpreter who source answers).2.2 = answers := by
  intro c recorded
  have unbooted := new_reflects (state, ([] : List Occurrence)) listener
  have same : recorded.forget = c := performAll_recorded interpreter _ calls
  have reflects : recorded.Reflects (lastBoot recorded.history) :=
    performAll_reflects (c := new (state, []) listener) unbooted calls
  obtain ⟨asked, history, asks⟩ := performAll_asksAll interpreter unbooted calls
  refine ⟨same, ⟨asked, history, asks, asks.bootingRuns_le_one⟩, ?_, ?_⟩
  · intro before source outcome after split
    exact asks.executed_behind_boot (history.symm.trans split)
  · intro ι who source answers e failed
    obtain ⟨result, -, left⟩ := recorded.run_recorded interpreter who source answers
    obtain ⟨⟨text, failure, tells, told, refusal⟩, kept⟩ := run_of_lastBoot_error reflects failed
    rw [same] at result left
    exact ⟨⟨text, failure, tells, told, result.symm.trans refusal⟩, left.symm.trans kept⟩

end Coordinator

end Tutor
