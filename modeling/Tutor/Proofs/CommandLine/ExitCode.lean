import Tutor.Proofs.CommandLine.Arguments
import Tutor.Proofs.CommandLine.Interactive
import Tutor.Proofs.Config.StartUp

/-!
What the exit code of the program tells.

A run of the program that is asked to explain a source ends in one of three ways (`StartUp`): it
runs the source, or its surroundings are not in order, or its arguments are not. The exit code tells
these three apart and nothing else, and only in the first case does the program print anything or
call a child (`interactive_exitCode`).
-/

namespace Tutor

variable {ω : Type}

/-! ## Calls of children -/

/-- The same host, with all that it was asked to run in the second part of its state. -/
def Host.recorded (host : Host ω) : Host (ω × List (Command × List String)) where
  probe command arguments world :=
    let (report, after) := host.probe command arguments world.1
    (report, after, world.2 ++ [(command, arguments)])
  start command arguments world :=
    let (child, after) := host.start command arguments world.1
    (child, after, world.2 ++ [(command, arguments)])

theorem Command.recorded_refines (command : Command) (host : Host ω) :
    (command.interpreter host.recorded).Refines (command.interpreter host) Prod.fst where
  boot _ := rfl
  execute source world := by
    simp only [interpreter, Host.recorded, Dialogue.map_map]

theorem Coordinator.ensureBooted_calls (command : Command) (host : Host ω)
    (world : ω × List (Command × List String)) :
    ((new world .absent).ensureBooted (command.interpreter host.recorded)).interpreter.2 =
      world.2 ++ [(command, ChildInterpreter.probeArguments)] := by
  rw [ensureBooted_of_notReady (c := new world .absent) rfl]
  rcases outcome : (command.interpreter host.recorded).boot world with ⟨e | _, state⟩
  · rw [boot_of_error (c := new world .absent) outcome]
    exact congrArg (·.2.2) outcome.symm
  · rw [boot_of_ok (c := new world .absent) outcome]
    exact congrArg (·.2.2) outcome.symm

theorem Coordinator.runReady_calls {ι : Type} (command : Command) (host : Host ω)
    (c : Coordinator (ω × List (Command × List String))) (who : Answerer ι) (source : String)
    (answers : ι) :
    (c.runReady (command.interpreter host.recorded) who source answers).2.1.interpreter.2 =
      c.interpreter.2 ++ [(command, ChildInterpreter.runArguments)] := by
  simp only [runReady, Interpreter.runOnce, Command.interpreter, Dialogue.play_map]
  rfl

/-- A run of a coordinator that was never booted calls the host. -/
theorem Coordinator.run_calls {ι : Type} (command : Command) (host : Host ω)
    (world : ω × List (Command × List String)) (who : Answerer ι) (source : String) (answers : ι) :
    ((new world .absent).run (command.interpreter host.recorded) who source
      answers).2.1.interpreter.2 ≠ [] := by
  simp only [run_eq]
  split
  · change ((new world .absent).ensureBooted _).interpreter.2 ≠ []
    rw [ensureBooted_calls]
    exact List.concat_ne_nil _ _
  · rw [runReady_calls]
    exact List.concat_ne_nil _ _

/-! ## What must be in order -/

/-- The file with the configuration, where one is named, is a text that gives a layer, and each
command that a layer gives has words. -/
def LayersValid (options : Options) (surroundings : Surroundings) : Prop :=
  ∃ low : ConfigLayer, low.OfStep ((options.config.map surroundings.files).map .file) ∧
    ∀ line, low.python = some line ∨ surroundings.environment.python = some line ∨
      options.python = some line → HasWords line

/-- The file with the source, where one is named, is a text. -/
def Readable (options : Options) (surroundings : Surroundings) : Prop :=
  ∀ name, options.file = some name → ∃ text, surroundings.files name = some (Utf8.encode text)

variable {options : Options} {surroundings : Surroundings}

theorem layersValid_iff :
    LayersValid options surroundings ↔ ∃ config, configOf options surroundings = .ok config := by
  simp only [configOf_eq_build, Config.build_forM, foldlM_startSteps_eq_ok_iff]
  constructor
  · intro ⟨low, ofFile, words⟩
    exact ⟨_, low, ofFile, words, rfl⟩
  · intro ⟨config, low, ofFile, words, same⟩
    exact ⟨low, ofFile, words⟩

theorem readable_iff :
    Readable options surroundings ↔
      ∃ source, sourceOf options surroundings.files = some source := by
  rw [Readable, sourceOf]
  cases options.file with
  | none => simp
  | some name => simp [← FileContent.text?_eq_some_iff]

/-- How a run of the program that is asked to explain a source starts. -/
inductive StartUp (arguments : List String) (surroundings : Surroundings) :
    Except Outcome Task → Prop
  | runs {options : Options} {command : Command} {source : String} :
    options.WellFormed arguments → LayersValid options surroundings →
    Readable options surroundings → StartUp arguments surroundings (.ok (.present command source))
  | disordered {options : Options} {complaint : String} :
    options.WellFormed arguments →
    ¬ (LayersValid options surroundings ∧ Readable options surroundings) →
    StartUp arguments surroundings (.error (.failure complaint))
  | misused : (∀ options : Options, ¬ options.WellFormed arguments) →
    StartUp arguments surroundings (.error (.ofOptionsEnd .misuse))

theorem taskOfArguments_startUp {arguments : List String}
    (interactive : Options.Interactive arguments) (surroundings : Surroundings) :
    StartUp arguments surroundings (taskOfArguments arguments surroundings) := by
  rw [taskOfArguments]
  rcases Options.read_of_interactive interactive with ⟨options, reads, run⟩ | misuse
  · have wellFormed := Options.read_eq_ok_iff.mp reads
    simp only [reads, taskOf]
    cases configured : configOf options surroundings with
    | error e =>
      refine .disordered wellFormed ?_
      rw [layersValid_iff, configured]
      intro order
      obtain ⟨config, same⟩ := order.1
      cases same
    | ok config =>
      obtain ⟨command, named⟩ := configOf_command configured
      have valid := layersValid_iff.mpr ⟨config, configured⟩
      simp only [named, run]
      cases readable : sourceOf options surroundings.files with
      | none =>
        refine .disordered wellFormed ?_
        rw [readable_iff, readable]
        intro order
        obtain ⟨source, same⟩ := order.2
        cases same
      | some source => exact .runs wellFormed valid (readable_iff.mpr ⟨source, readable⟩)
  · rw [misuse]
    refine .misused fun options wellFormed => ?_
    rw [Options.read_eq_ok_iff.mpr wellFormed] at misuse
    cases misuse

theorem shownRun_ne_empty (source : String) (result : RunResult) :
    shownRun source result ≠ "" := by
  -- Only the name is opened here: making its equation would take all the strings apart.
  delta shownRun
  simp only [Ne, ← String.toList_eq_nil_iff, String.toList_append, List.append_eq_nil_iff]
  intro empty
  exact absurd empty.1.1.1.1.1.1 (by decide)

/-- Whatever the children do, the program shows something and counts as a success. -/
theorem runInteractive_success (host : Host ω) (command : Command) (world : ω) (source : String)
    (stdin : List UInt8) :
    ∃ text, text ≠ "" ∧ (runInteractive host command world source stdin).1 = .success text :=
  ⟨_, shownRun_ne_empty source _, rfl⟩

/-- A program that is shown has been given to a child, or there was an attempt to. -/
theorem runInteractive_calls (host : Host ω) (command : Command)
    (world : ω × List (Command × List String)) (source : String) (stdin : List UInt8) :
    (runInteractive host.recorded command world source stdin).2.2 ≠ [] :=
  Coordinator.run_calls command host world streamAnswerer source stdin

theorem runInteractive_recorded (host : Host ω) (command : Command)
    (world : ω × List (Command × List String)) (source : String) (stdin : List UInt8) :
    (runInteractive host.recorded command world source stdin).1 =
      (runInteractive host command world.1 source stdin).1 := by
  have same := Coordinator.run_refines (command.recorded_refines host) (.new world .absent)
    streamAnswerer source stdin
  have start : Coordinator.mapState Prod.fst (.new world .absent) =
    Coordinator.new world.1 .absent := rfl
  rw [start] at same
  simp only [runInteractive, same]

/-! ## The exit code -/

/-- Where no argument asks for something else than to explain and run a program, the exit code is 0
just if the arguments are well formed, the layers of the configuration are valid and the source can
be read, whatever the children do; it is 2 just if the arguments are not well formed, and else 1.
Where it is not 0, nothing is printed and no child is called. -/
theorem interactive_exitCode (host : Host ω) (world : ω) {arguments : List String}
    (interactive : Options.Interactive arguments) (surroundings : Surroundings) :
    let outcome := (runProgram host world arguments surroundings).1
    let recorded := runProgram host.recorded (world, []) arguments surroundings
    recorded.1 = outcome ∧
      (outcome.exitCode = 0 ↔ ∃ options : Options, options.WellFormed arguments ∧
        LayersValid options surroundings ∧ Readable options surroundings) ∧
      (outcome.exitCode = 1 ↔ ∃ options : Options, options.WellFormed arguments ∧
        ¬ (LayersValid options surroundings ∧ Readable options surroundings)) ∧
      (outcome.exitCode = 2 ↔ ¬ ∃ options : Options, options.WellFormed arguments) ∧
      (outcome.stdout = [] ↔ outcome.exitCode ≠ 0) ∧
      (recorded.2.2 = [] ↔ outcome.exitCode ≠ 0) := by
  have start := taskOfArguments_startUp interactive surroundings
  simp only [runProgram]
  -- Only the way of the start matters from here on, not how it was found.
  generalize taskOfArguments arguments surroundings = task at start
  cases start with
  | @runs options command source wellFormed valid readable =>
    obtain ⟨text, filled, shown⟩ :=
      runInteractive_success host command world source surroundings.stdin
    have stdout : Utf8.encode text.toList ≠ [] :=
      Utf8.encode_eq_nil.not.mpr (String.toList_eq_nil_iff.not.mpr filled)
    have calls := runInteractive_calls host command (world, []) source surroundings.stdin
    have known : ∃ options : Options, options.WellFormed arguments := ⟨options, wellFormed⟩
    simp only [wellFormed.exists_iff, Task.perform, runInteractive_recorded, shown]
    simp [Outcome.success, valid, readable, known, stdout, calls]
  | @disordered options complaint wellFormed disorder =>
    have known : ∃ options : Options, options.WellFormed arguments := ⟨options, wellFormed⟩
    simp only [wellFormed.exists_iff]
    simp [Outcome.failure, disorder, known]
  | misused noOptions => simp [Outcome.ofOptionsEnd, noOptions]

/-- A source that can be read and a command that cannot be started. -/
theorem interactive_exitCode_notStarted :
    let host : Host Unit :=
      ⟨fun _ _ _ => (.error .noSuchFile, ()), fun _ _ _ => (.error .noSuchFile, ())⟩
    let arguments := ["--python", "py -I", "a.py"]
    let surroundings : Surroundings :=
      ⟨.empty, fun name => if name = "a.py" then some (Utf8.encode "x".toList) else none, []⟩
    Options.Interactive arguments ∧
      (runProgram host () arguments surroundings).1.exitCode = 0 ∧
      (runProgram host.recorded ((), []) arguments surroundings).2.2 ≠ [] := by
  intro host arguments surroundings
  have interactive : Options.Interactive arguments := by decide
  have reads : Options.read arguments = .ok ⟨some "a.py", false, some "py -I", none⟩ := by
    decide +kernel
  have valid : LayersValid ⟨some "a.py", false, some "py -I", none⟩ surroundings :=
    layersValid_iff.mpr ⟨⟨["py", "-I"], "pyexplain=info"⟩, rfl⟩
  have readable : Readable ⟨some "a.py", false, some "py -I", none⟩ surroundings := by
    intro name same
    cases same
    exact ⟨"x".toList, rfl⟩
  obtain ⟨-, success, -, -, -, calls⟩ := interactive_exitCode host () interactive surroundings
  have code := success.mpr ⟨_, Options.read_eq_ok_iff.mp reads, valid, readable⟩
  exact ⟨interactive, code, mt calls.mp (not_not.mpr code)⟩

end Tutor
