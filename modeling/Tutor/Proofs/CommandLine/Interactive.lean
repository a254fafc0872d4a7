import Tutor.Proofs.CommandLine.Presentation
import Tutor.Proofs.Config.Command
import Tutor.Proofs.Run.Agreement
import Tutor.Proofs.Server.Analysis

/-!
What the program prints when it analyzes a source itself.

It has no listener and takes its answers from lines that are typed, where a server has a listener
and answers that came with the request; neither makes a difference to the result of the run
(`runInteractive_eq`). So the program prints the presentation of what a server would have answered
(`interactive_presents_analysis`).
-/

namespace Tutor

open Json

/-! ## The task -/

/-- A configuration that is accepted names a command. -/
theorem configOf_command {options : Options} {surroundings : Surroundings} {config : Config}
    (configured : configOf options surroundings = .ok config) :
    ∃ command, Command.ofWords? config.python = some command := by
  rcases options with ⟨file, serve, python, config⟩
  have layers := Configure.KeepsCommand.layers (config.map surroundings.files)
    surroundings.environment
  refine (Config.hasCommand_of_build ?_ configured).ofWords?
  cases python with
  | none => exact layers.bind fun _ => .pure ()
  | some line => exact layers.bind fun _ => .setPython line

theorem taskOf_present {options : Options} {surroundings : Surroundings} {config : Config}
    {command : Command} {source : String}
    (configured : configOf options surroundings = .ok config)
    (named : Command.ofWords? config.python = some command) (interactive : options.serve = false)
    (readable : sourceOf options surroundings.files = some source) :
    taskOf options surroundings = .ok (.present command source) := by
  simp [taskOf, configured, named, interactive, readable]

/-! ## The run -/

theorem FailureInfo.ofProgramError_message_ne (report : String) :
    (ofProgramError report).friendlyMessage ≠ Presentation.noFailure := by
  -- A label is followed by a colon, and the other text has none.
  have colon : ':' ∈ (ofProgramError report).friendlyMessage.toList := by
    by_cases empty : report = ""
    · rw [empty, ofProgramError_empty]
      decide +kernel
    · rw [ofProgramError_of_ne empty]
      simp [messageOn]
  intro same
  rw [same] at colon
  revert colon
  decide

theorem FailureInfo.unexpected_message_ne (report : String) :
    (unexpected report).friendlyMessage ≠ Presentation.noFailure := by
  simp [unexpected, Presentation.noFailure]

theorem RunResult.ofOutcome_message_ne {captured : String} {outcome : Except RunError Unit}
    {failure : FailureInfo} (fails : (ofOutcome captured outcome).failure = some failure) :
    failure.friendlyMessage ≠ Presentation.noFailure := by
  rcases outcome with (report | report) | done
  · cases fails
    exact FailureInfo.ofProgramError_message_ne report
  · cases fails
    exact FailureInfo.unexpected_message_ne report
  · cases fails

/-- What is said of a failed run is never what stands in place of a failure. -/
theorem Coordinator.run_message_ne {σ ι : Type} (interpreter : Interpreter σ) (who : Answerer ι)
    (c : Coordinator σ) (source : String) (answers : ι) {failure : FailureInfo}
    (fails : (c.run interpreter who source answers).1.failure = some failure) :
    failure.friendlyMessage ≠ Presentation.noFailure := by
  simp only [run_eq] at fails
  split at fails
  · cases fails
    exact FailureInfo.unexpected_message_ne _
  · exact RunResult.ofOutcome_message_ne fails

/-- Without a listener and with typed answers a run has the result that a server's run has. -/
theorem runInteractive_eq {ω : Type} (host : Host ω) (command : Command) (world : ω)
    (source : String) {answers : List String} {stdin : List UInt8} (typed : Typed answers stdin) :
    let server := Server.new world
    let run := runWith (command.interpreter host) server.coordinator ⟨source, answers⟩
    (runInteractive host command world source stdin).1 = .success (shownRun source run.1) := by
  intro server run
  have start : Typed (PreparedAnswers.ofList answers).answers stdin := typed
  have same := (server.coordinator.run_matches (command.interpreter host) prepared_matches_typed
    source start).1
  have alone := server.coordinator.run_silenced (command.interpreter host) streamAnswerer source
    stdin
  have result : run.1 =
      ((Coordinator.new world .absent).run (command.interpreter host) streamAnswerer source
        stdin).1 := by
    rw [show Coordinator.new world .absent = server.coordinator.silenced from rfl, alone]
    exact same
  rw [result]
  rfl

/-- Where the arguments, the configuration and the source are in order, the program prints the
presentation of what a fresh server answers to an analysis of this source with these answers,
whatever the interpreter does. The last line says that there is no failure exactly if the answer
holds none. -/
theorem interactive_presents_analysis {ω : Type} (host : Host ω) (world : ω)
    {arguments : List String} {surroundings : Surroundings} {options : Options} {config : Config}
    {source : String} {answers : List String} {v : Value}
    (reads : Options.read arguments = .ok options) (interactive : options.serve = false)
    (configured : configOf options surroundings = .ok config)
    (readable : sourceOf options surroundings.files = some source)
    (typed : Typed answers surroundings.stdin) (accepted : RunArgument v ⟨source, answers⟩)
    (seq : Nat) (type : String) :
    ∃ command last body lines,
      let ask := (Server.new world).ask (command.interpreter host) seq type
      Command.ofWords? config.python = some command ∧
        (ask "analyzeAndRun" v).outgoing.getLast? =
          some ⟨last, "response", .response seq true "analyzeAndRun" none (some body)⟩ ∧
        Presentation.ofAnalysis? body = some lines ∧
        (runProgram host world arguments surroundings).1 = .success (Presentation.text lines) ∧
        (lines.getLast? = some Presentation.noFailure ↔
          Presentation.failure? body = some .null) := by
  obtain ⟨command, named⟩ := configOf_command configured
  have task := taskOf_present configured named interactive readable
  have printed : runProgram host world arguments surroundings =
      runInteractive host command world source surroundings.stdin := by
    simp only [runProgram, taskOfArguments, reads, task]
    rfl
  let run := runWith (command.interpreter host) (Server.new world).coordinator ⟨source, answers⟩
  obtain ⟨replied, -⟩ := (Server.new world).ask_of_worked (command.interpreter host)
    (respond_analyzeAndRun (command.interpreter host) (Server.new world).coordinator accepted) seq
    type
  have answered := congrArg List.getLast? replied
  rw [List.getLast?_concat] at answered
  refine ⟨command, _, Presentation.body source run.1, _, named, answered,
    Presentation.ofAnalysis?_body source run.1, ?_, ?_⟩
  · rw [printed, runInteractive_eq host command world source typed, Presentation.text_linesOfRun]
  · rw [Presentation.getLast?_linesOfRun, Presentation.failure?_body_eq_null_iff]
    apply Presentation.getLast?_linesOfFailure_iff
    intro failure fails
    exact Coordinator.run_message_ne _ _ _ _ _ fails

/-- A program that asks for a line and repeats it, with both line ends on the input and a last line
without one. -/
theorem interactive_presents_analysis_asking :
    let child : Child :=
      .reads fun _ => .writes (Utf8.encode (requestMarker ++ "\"? \"\n").toList)
        (.reads fun line => .writes (line.getD []) (.exits (.exited 0) []))
    let host : Host Unit :=
      ⟨fun _ _ _ => (.ok ⟨Utf8.encode ChildInterpreter.readyWord.toList, [], .exited 0⟩, ()),
        fun _ _ _ => (.ok child, ())⟩
    let arguments := ["--python", "py -I", "a.py"]
    let options : Options := ⟨some "a.py", false, some "py -I", none⟩
    let source := "print(input())"
    let answers := ["Ada", "", "Bo"]
    let v := Value.array [.string source, .array (answers.map .string)]
    let surroundings : Surroundings :=
      ⟨.empty, fun name => if name = "a.py" then some (Utf8.encode source.toList) else none,
        Utf8.encode "Ada\r\n\nBo".toList⟩
    let ask := (Server.new ()).ask (Command.interpreter ⟨"py", ["-I"]⟩ host) 1 "request"
    Options.read arguments = .ok options ∧ options.serve = false ∧
      configOf options surroundings = .ok ⟨["py", "-I"], "pyexplain=info"⟩ ∧
      sourceOf options surroundings.files = some source ∧ Typed answers surroundings.stdin ∧
      RunArgument v ⟨source, answers⟩ ∧
      ∃ last body lines,
        (ask "analyzeAndRun" v).outgoing.getLast? =
          some ⟨last, "response", .response 1 true "analyzeAndRun" none (some body)⟩ ∧
        Presentation.ofAnalysis? body = some lines ∧
        (runProgram host () arguments surroundings).1 = .success (Presentation.text lines) ∧
        (lines.getLast? = some Presentation.noFailure ↔
          Presentation.failure? body = some .null) := by
  intro child host arguments options source answers v surroundings ask
  have reads : Options.read arguments = .ok options := by decide +kernel
  have configured : configOf options surroundings = .ok ⟨["py", "-I"], "pyexplain=info"⟩ := rfl
  have readable : sourceOf options surroundings.files = some source := by decide +kernel
  have typed : Typed answers surroundings.stdin :=
    .line ⟨by decide, by decide⟩ (by decide : ['\r', '\n'] ∈ lineEnds)
      (.line ⟨by decide, by decide⟩ (by decide : ['\n'] ∈ lineEnds)
        (.unended ⟨by decide, by decide⟩ (by decide)))
  have accepted : RunArgument v ⟨source, answers⟩ := @RunArgument.items source answers
  obtain ⟨command, last, body, lines, named, presents⟩ :=
    interactive_presents_analysis host () reads rfl configured readable typed accepted 1 "request"
  cases named
  exact ⟨reads, rfl, configured, readable, typed, accepted, last, body, lines, presents⟩

end Tutor
