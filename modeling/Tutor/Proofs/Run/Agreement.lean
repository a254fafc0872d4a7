import Tutor.Proofs.Run.Answers
import Tutor.Proofs.Run.History

/-!
What a run does not depend on: who listens, and who answers.

A listener is told of the statuses and asked for nothing, so a coordinator does the same without
one (`Coordinator.run_silenced`). Two answerers that agree lead a run to the same result and the
same coordinator, and go on agreeing (`Coordinator.run_matches`).
-/

namespace Tutor

variable {σ ι κ : Type}

theorem Interpreter.runOnce_matches (interpreter : Interpreter σ) {who : Answerer ι}
    {other : Answerer κ} {related : ι → κ → Prop} (agree : who.Matches other related)
    (source : String) (state : σ) {a : ι} {b : κ} (start : related a b) :
    let left := interpreter.runOnce who source state a
    let right := interpreter.runOnce other source state b
    left.1 = right.1 ∧ left.2.1 = right.2.1 ∧ related left.2.2 right.2.2 := by
  obtain ⟨chunks, result, answers⟩ :=
    Dialogue.play_matches agree (interpreter.execute source state) start
  simp only [runOnce, chunks, result, true_and]
  exact answers

namespace Coordinator

variable (interpreter : Interpreter σ) (c : Coordinator σ)

/-! ## Who listens -/

/-- The coordinator without a listener. -/
def silenced (c : Coordinator σ) : Coordinator σ := { c with listener := .absent }

theorem boot_silenced :
    c.silenced.boot interpreter =
      ((c.boot interpreter).1, (c.boot interpreter).2.silenced) := by
  rcases outcome : interpreter.boot c.interpreter with ⟨e | _, state⟩
  · rw [boot_of_error (c := c.silenced) outcome, boot_of_error outcome]
    rfl
  · rw [boot_of_ok (c := c.silenced) outcome, boot_of_ok outcome]
    rfl

theorem ensureBooted_silenced :
    c.silenced.ensureBooted interpreter = (c.ensureBooted interpreter).silenced := by
  have sameStatus : c.silenced.status = c.status := rfl
  unfold ensureBooted
  rw [sameStatus]
  split
  · rw [boot_silenced]
  · rfl

theorem refuse_silenced : c.silenced.refuse = (c.refuse.1, c.refuse.2.silenced) := rfl

theorem runReady_silenced (who : Answerer ι) (source : String) (answers : ι) :
    let run := c.runReady interpreter who source answers
    c.silenced.runReady interpreter who source answers = (run.1, run.2.1.silenced, run.2.2) := rfl

/-- A run is the same for a coordinator that nobody listens to. -/
theorem run_silenced (who : Answerer ι) (source : String) (answers : ι) :
    let run := c.run interpreter who source answers
    c.silenced.run interpreter who source answers = (run.1, run.2.1.silenced, run.2.2) := by
  have sameStatus : (c.ensureBooted interpreter).silenced.status =
      (c.ensureBooted interpreter).status := rfl
  simp only [run_eq, ensureBooted_silenced, sameStatus]
  split
  · rw [refuse_silenced]
  · rw [runReady_silenced]

/-! ## Who answers -/

section Answers

variable {who : Answerer ι} {other : Answerer κ} {related : ι → κ → Prop}

theorem runReady_matches (agree : who.Matches other related) (source : String) {a : ι} {b : κ}
    (start : related a b) :
    let left := c.runReady interpreter who source a
    let right := c.runReady interpreter other source b
    left.1 = right.1 ∧ left.2.1 = right.2.1 ∧ related left.2.2 right.2.2 := by
  obtain ⟨result, state, answers⟩ :=
    interpreter.runOnce_matches agree source c.interpreter start
  have sameState : ((c.enter .preparing).enter .running).interpreter = c.interpreter := rfl
  simp only [runReady, sameState, result, state, true_and]
  exact answers

/-- A run ends in the same way with two answerers that agree. -/
theorem run_matches (agree : who.Matches other related) (source : String) {a : ι} {b : κ}
    (start : related a b) :
    let left := c.run interpreter who source a
    let right := c.run interpreter other source b
    left.1 = right.1 ∧ left.2.1 = right.2.1 ∧ related left.2.2 right.2.2 := by
  simp only [run_eq]
  split
  · exact ⟨rfl, rfl, start⟩
  · exact (c.ensureBooted interpreter).runReady_matches interpreter agree source start

end Answers

end Coordinator

end Tutor
