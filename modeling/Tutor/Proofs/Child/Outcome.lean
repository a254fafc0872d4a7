import Tutor.Child.Interpreter
import Tutor.Proofs.Child.Line
import Tutor.Proofs.Run.History
import Tutor.Run.Answers

/-!
How a run in a child ends.

`Judged` says which outcome the lines of a child's output, its exit status and its error output
stand for: the last line with a report decides, whatever the status; without one, the status does.
A run has just this outcome, and shows what the lines hold besides reports and requests, whatever
the child writes in whatever pieces, and whether the answers arrive at it or not
(`Command.execute_judged`).
-/

namespace Tutor

variable {ι ω : Type}

/-! ## Passages -/

/-- What the lines of a child's output and its end mean for a run. -/
inductive Judged (lines : List (List Char)) (status : ExitStatus) (errors : List UInt8) :
    Except RunError Unit → Prop
  | program {front behind : List (List Char)} {line : List Char} {text : String} :
    lines = front ++ line :: behind → Reports line text → (∀ later ∈ behind, ¬ HasReport later) →
    Judged lines status errors (.error (.program text))
  | infrastructure {stderr : List Char} :
    (∀ line ∈ lines, ¬ HasReport line) → status ≠ .exited 0 →
    Text.Stripped (Utf8.readLossy errors) stderr →
    Judged lines status errors (.error (.infrastructure
      ("interpreter exited with " ++ status.message ++ ": " ++ String.ofList stderr)))
  | ok : (∀ line ∈ lines, ¬ HasReport line) → status = .exited 0 →
    Judged lines status errors (.ok ())

section Outcomes

variable {lines : List (List Char)} {status : ExitStatus} {errors : List UInt8}

/-- The last report among lines, if there is one. -/
def lastReport (lines : List (List Char)) : Option String :=
  lines.reverse.findSome? fun line => (ChildLine.ofText line).report?

theorem lastReport_eq_none_iff : lastReport lines = none ↔ ∀ line ∈ lines, ¬ HasReport line := by
  rw [lastReport, List.findSome?_eq_none_iff]
  simp only [List.mem_reverse, ChildLine.report?_eq_none_iff]

theorem lastReport_eq_some_iff {text : String} :
    lastReport lines = some text ↔ ∃ front line behind, lines = front ++ line :: behind ∧
      Reports line text ∧ ∀ later ∈ behind, ¬ HasReport later := by
  rw [lastReport, List.findSome?_eq_some_iff]
  simp only [ChildLine.report?_iff, ChildLine.report?_eq_none_iff]
  constructor
  · rintro ⟨behind, line, front, split, reports, silent⟩
    refine ⟨front.reverse, line, behind.reverse, ?_, reports, ?_⟩
    · rw [List.reverse_eq_iff.1 split]
      simp
    · exact fun later member => silent later (List.mem_reverse.1 member)
  · rintro ⟨front, line, behind, rfl, reports, silent⟩
    refine ⟨behind.reverse, line, front.reverse, by simp, reports, ?_⟩
    exact fun later member => silent later (List.mem_reverse.1 member)

theorem isSuccess_iff : status.isSuccess = true ↔ status = .exited 0 :=
  beq_iff_eq

/-- An outcome that lines and an end demand is the one that is found. -/
theorem Judged.eq_judgeRun {farewell : Farewell} {outcome : Except RunError Unit}
    (report : farewell.relay.report = lastReport lines)
    (judged : Judged lines farewell.status farewell.errors outcome) :
    outcome = ChildInterpreter.judgeRun farewell := by
  rw [ChildInterpreter.judgeRun, report]
  cases judged with
  | program split reports silent =>
    rw [lastReport_eq_some_iff.2 ⟨_, _, _, split, reports, silent⟩]
  | infrastructure none failure stderr =>
    rw [lastReport_eq_none_iff.2 none, Text.stripped_iff.1 stderr]
    exact (if_neg (isSuccess_iff.not.2 failure)).symm
  | ok none success =>
    rw [lastReport_eq_none_iff.2 none]
    exact (if_pos (isSuccess_iff.2 success)).symm

/-- Lines and an end demand one outcome. -/
theorem Judged.unique {outcome other : Except RunError Unit}
    (first : Judged lines status errors outcome) (second : Judged lines status errors other) :
    outcome = other := by
  let farewell : Farewell := ⟨⟨[], .new, lastReport lines⟩, status, errors⟩
  have one : outcome = ChildInterpreter.judgeRun farewell := first.eq_judgeRun rfl
  have two : other = ChildInterpreter.judgeRun farewell := second.eq_judgeRun rfl
  exact one.trans two.symm

end Outcomes

/-! ## Runs -/

/-- A child that has taken the submission is talked with, and what remains is judged. -/
theorem Command.interpreter_execute {command : Command} {host : Host ω} {source : String}
    {world next : ω} {child : Child} {input : ChildInput}
    (started : host.start command ChildInterpreter.runArguments world = (.ok child, next))
    (delivered : child.opening.send source = .ok input) :
    (command.interpreter host).execute source world =
      (child.converse (.new input)).map fun farewell =>
        (ChildInterpreter.judgeRun farewell, next) := by
  simp only [interpreter, started, ChildInterpreter.converse, delivered, Dialogue.map_map]

end Tutor
