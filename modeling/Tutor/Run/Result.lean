import Tutor.Failure.Advice
import Tutor.Run.Interpreter
import Tutor.Text.Blank

/-!
The result of one run: the output that was captured, and the failure if there was one.

Output is kept without carriage returns and without the blanks at its end. A run that failed for
a reason outside the program shows no output at all.
-/

namespace Tutor

/-- A chunk of output as it is kept. -/
def keptChunk (chunk : String) : List Char := chunk.toList.filter (· != '\r')

/-- The output of a run from its chunks. -/
def captureChunks (chunks : List String) : String :=
  String.ofList (Text.trimEnd (chunks.flatMap keptChunk))

/-- What one run produced. -/
structure RunResult where
  output : String
  failure : Option FailureInfo
  deriving DecidableEq, Repr

namespace RunResult

/-- Shown when a program that succeeded wrote nothing. -/
def noOutput : String := "(no output)"

/-- Shown when a program that failed wrote nothing before. -/
def noOutputDueToError : String := "(no output due to error)"

/-- The result of a run with this outcome and this captured output. -/
def ofOutcome (captured : String) : Except RunError Unit → RunResult
  | .ok () => ⟨if captured = "" then noOutput else captured, none⟩
  | .error (.program report) =>
    ⟨if captured = "" then noOutputDueToError else captured,
      some (.ofProgramError report)⟩
  | .error (.infrastructure report) => ⟨"", some (.unexpected report)⟩

end RunResult

/-- Runs a program once: the result, and the states of the interpreter and the answerer after. -/
def Interpreter.runOnce {σ ι : Type} (interpreter : Interpreter σ) (who : Answerer ι)
    (source : String) (state : σ) (answers : ι) : RunResult × σ × ι :=
  let transcript := (interpreter.execute source state).play who answers
  (.ofOutcome (captureChunks transcript.chunks) transcript.result.1, transcript.result.2,
    transcript.answers)

end Tutor
