import Tutor.Child.Interpreter
import Tutor.CommandLine.Options
import Tutor.Config.Basic
import Tutor.Server.Session

/-!
A run of the whole program: its arguments and surroundings on one side, its exit code and output
on the other.

The program explains a file, or a built-in example, runs it, and shows the result; or it serves
requests on its standard streams. Whatever the interpreter does, a program that could be shown
counts as a success.
-/

namespace Tutor

/-- What surrounds a run of the program. -/
structure Surroundings where
  environment : ConfigLayer
  /-- The files, by their names. -/
  files : String → FileContent
  stdin : List UInt8

/-- What a run of the program leaves behind. -/
structure Outcome where
  exitCode : Nat
  stdout : List UInt8
  /-- What is said to the user of a run that could not do its work. -/
  complaint : String
  deriving DecidableEq, Repr

namespace Outcome

/-- A run that ends with this text and no fault. -/
def success (text : String) : Outcome := ⟨0, Utf8.encode text.toList, ""⟩

/-- A run that could not do its work. -/
def failure (complaint : String) : Outcome := ⟨1, [], complaint⟩

/-- The outcome of arguments that do not lead to a run. -/
def ofOptionsEnd : OptionsEnd → Outcome
  | .help => success helpText
  | .version => success versionText
  | .misuse => ⟨2, [], "error: the arguments cannot be understood; try '--help'"⟩

end Outcome

/-! ## What is shown -/

/-- A number with blanks before it up to a width of four. -/
def paddedNumber (n : Nat) : String :=
  let digits := Nat.toDigits 10 n
  String.ofList (List.replicate (4 - digits.length) ' ' ++ digits)

/-- An explained line as it is shown. -/
def ExplainedLine.shown (line : ExplainedLine) : String :=
  paddedNumber line.number ++ " | " ++ (if line.text = "" then "(blank)" else line.text) ++
    "\n     └─ " ++ line.explanation ++ "\n"

/-- A failure as it is shown, or that there was none. -/
def shownFailure : Option FailureInfo → String
  | none => "No errors detected.\n"
  | some failure =>
    failure.friendlyMessage ++ "\n" ++
      String.join (failure.hints.map fun hint => "  • " ++ hint ++ "\n")

/-- All that is shown of a program and the result of its run. -/
def shownRun (source : String) (result : RunResult) : String :=
  "=== Line-by-line explanation ===\n" ++
    String.join ((explainSource source).map ExplainedLine.shown) ++
    "\n=== Output ===\n" ++ result.output ++ "\n" ++
    "\n=== Error / Hints ===\n" ++ shownFailure result.failure

/-! ## The two modes -/

section Modes

variable {ω : Type} (host : Host ω) (command : Command) (world : ω)

/-- Explains and runs a program whose questions are answered from the standard input. -/
def runInteractive (source : String) (stdin : List UInt8) : Outcome × ω :=
  let (result, c, _) :=
    (Coordinator.new world .absent).run (command.interpreter host) streamAnswerer source stdin
  (.success (shownRun source result), c.interpreter)

/-- Serves the requests on the standard input. -/
def runServer (stdin : List UInt8) : Outcome × ω :=
  let session := Session.serve (command.interpreter host) (Server.new world) none stdin
  let outcome := {
    exitCode := if session.ending = .ok then 0 else 1
    stdout := session.written.flatMap Message.frame
    complaint := if session.ending = .cutShort then cutShortMessage else "" }
  (outcome, session.server.coordinator.interpreter)

end Modes

/-- The program to explain and run: the file that is named, if it can be read, or the example. -/
def sourceOf (options : Options) (files : String → FileContent) : Option String :=
  match options.file with
  | none => some exampleSource
  | some name => ((files name).text?).map String.ofList

/-- The configuration that the options and the surroundings amount to: defaults, file, environment
and option, each over what is before. -/
def configOf (options : Options) (surroundings : Surroundings) : Except ConfigError Config :=
  Config.build do
    Config.layers (options.config.map surroundings.files) surroundings.environment
    if let some line := options.python then
      Config.setPython line

/-- What a run is going to do. -/
inductive Task
  | serve (command : Command)
  | present (command : Command) (source : String)
  deriving DecidableEq, Repr

/-- The task that the options and the surroundings set, or what stands against it. A file that is
named is not read when requests are served. -/
def taskOf (options : Options) (surroundings : Surroundings) : Except Outcome Task :=
  match configOf options surroundings with
  | .error e => .error (.failure (e.message (options.config.getD "")))
  | .ok config =>
    match Command.ofWords? config.python with
    | none => .error (.failure BootError.emptyCommand.message)
    | some command =>
      if options.serve then .ok (.serve command)
      else
        match sourceOf options surroundings.files with
        | none => .error (.failure ("could not read " ++ options.file.getD ""))
        | some source => .ok (.present command source)

/-- The task that the arguments and the surroundings set, or what stands against it. -/
def taskOfArguments (arguments : List String) (surroundings : Surroundings) :
    Except Outcome Task :=
  match Options.read arguments with
  | .error stop => .error (.ofOptionsEnd stop)
  | .ok options => taskOf options surroundings

/-- Carries out a task: what it leaves behind, and the world after it. -/
def Task.perform {ω : Type} (host : Host ω) (world : ω) (stdin : List UInt8) : Task → Outcome × ω
  | serve command => runServer host command world stdin
  | present command source => runInteractive host command world source stdin

/-- Runs the program: what it leaves behind, and the world after it. -/
def runProgram {ω : Type} (host : Host ω) (world : ω) (arguments : List String)
    (surroundings : Surroundings) : Outcome × ω :=
  match taskOfArguments arguments surroundings with
  | .error outcome => (outcome, world)
  | .ok task => task.perform host world surroundings.stdin

end Tutor
