import Tutor.Run.Dialogue

/-!
What the playground asks of an interpreter, and what may go wrong with it.
-/

namespace Tutor

/-- Why an interpreter could not be brought up. -/
inductive BootError
  /-- The command line has no words. -/
  | emptyCommand
  /-- The command line does not split into words. -/
  | invalidCommand (line : String)
  /-- The program could not be started, for this reason. -/
  | notStarted (program reason : String)
  /-- The program ran, but did not report that it is ready. -/
  | notReady (report : String)
  deriving DecidableEq, Repr

/-- The text of the error. -/
def BootError.message : BootError → String
  | emptyCommand => "interpreter command is empty"
  | invalidCommand line => "could not parse interpreter command line: " ++ line
  | notStarted program reason => "failed to start `" ++ program ++ "`: " ++ reason
  | notReady report => "interpreter did not report ready: " ++ report

/-- Why a run did not succeed. -/
inductive RunError
  /-- The submitted program raised an error, with this report. -/
  | program (report : String)
  /-- The interpreter could not run the program. -/
  | infrastructure (report : String)
  deriving DecidableEq, Repr

/-- An interpreter with a state in `σ`. A run ends with its outcome and the state after it. -/
structure Interpreter (σ : Type) where
  boot : σ → Except BootError Unit × σ
  execute : String → σ → Dialogue (Except RunError Unit × σ)

end Tutor
