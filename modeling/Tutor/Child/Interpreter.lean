import Tutor.Child.Prelude
import Tutor.Child.Relay
import Tutor.Config.Words
import Tutor.Run.Interpreter

/-!
An interpreter that runs each submission in a fresh child.

It is booted by a probe: the command must print a known word and report success. A run sends the
submission, relays the child's output and requests, and ends by what the child reported: an error
report counts as the program's, whatever the exit status; without one, a status other than success
counts as a failure of the interpreter.
-/

namespace Tutor

/-- The command of a command line in the way of a shell. -/
def Command.ofLine (line : String) : Except BootError Command :=
  match splitWords line with
  | none => .error (.invalidCommand line)
  | some words =>
    match ofWords? words with
    | none => .error .emptyCommand
    | some command => .ok command

namespace ChildInterpreter

/-- The word that shows that an interpreter works. -/
def readyWord : String := "__PYEXPLAIN_READY__"

/-- What is added to a command for a probe. -/
def probeArguments : List String := ["-c", "print('" ++ readyWord ++ "')"]

/-- What is added to a command for a run. -/
def runArguments : List String := ["-u", "-c", preludeProgram]

/-- Error output as text without the blanks at its ends. -/
def errorText (errors : List UInt8) : String :=
  String.ofList (Text.trim (Utf8.readLossy errors))

/-- What a probe shows. -/
def judgeProbe (program : String) : Except OsError ProbeReport → Except BootError Unit
  | .error reason => .error (.notStarted program reason.message)
  | .ok report =>
    if report.status.isSuccess && Text.occursIn readyWord.toList (Utf8.readLossy report.output)
    then .ok ()
    else .error
      (.notReady (errorText report.errors ++ " (exit: " ++ report.status.message ++ ")"))

/-- What the end of a conversation means for the run. -/
def judgeRun (farewell : Farewell) : Except RunError Unit :=
  match farewell.relay.report with
  | some report => .error (.program report)
  | none =>
    if farewell.status.isSuccess then .ok ()
    else .error (.infrastructure ("interpreter exited with " ++ farewell.status.message ++ ": " ++
      errorText farewell.errors))

/-- The outcome of a run whose child was started, or not. A child that does not take the submission
is given up. -/
def converse (program source : String) : Except OsError Child → Dialogue (Except RunError Unit)
  | .error reason =>
    .done (.error (.infrastructure ("failed to start " ++ program ++ ": " ++ reason.message)))
  | .ok child =>
    match child.opening.send source with
    | .error reason => .done (.error (.infrastructure reason.message))
    | .ok input => (child.converse (.new input)).map judgeRun

end ChildInterpreter

open ChildInterpreter in
/-- The interpreter that starts this command on a host. -/
def Command.interpreter {ω : Type} (command : Command) (host : Host ω) : Interpreter ω where
  boot world :=
    let (report, world) := host.probe command probeArguments world
    (judgeProbe command.program report, world)
  execute source world :=
    let (child, world) := host.start command runArguments world
    (converse command.program source child).map (·, world)

end Tutor
