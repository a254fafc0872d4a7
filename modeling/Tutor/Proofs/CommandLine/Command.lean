import Tutor.Proofs.CommandLine.ExitCode

/-!
The command that an interpreter is started with.

A configuration never loses its command, whatever is laid over it and whatever is refused, so every
start that gets as far as a configuration has a command. A command is made of words in two ways, and
both refuse a lack of words; so wherever an interpreter starts a child, there is a first word to
start and there are the others to begin its arguments with (`Config.always_names_command`).
-/

namespace Tutor

/-! ## Histories of a configuration -/

/-- What becomes of a configuration: a step over it, or another one that is loaded in its place. -/
inductive ConfigChange
  | step (step : ConfigStep)
  | load (file : Option FileContent) (environment : ConfigLayer)
  deriving DecidableEq, Repr

namespace Config

/-- The configuration after a change, also where it is refused. What cannot be loaded takes no
place. -/
def afterChange (config : Config) : ConfigChange → Config
  | .step step => (config.after step.configure).2
  | .load file environment =>
    match load file environment with
    | .ok loaded => loaded
    | .error _ => config

/-- The configuration after several changes. -/
def afterChanges (config : Config) (changes : List ConfigChange) : Config :=
  changes.foldl afterChange config

theorem after_snd (step : Configure Unit) (config : Config) :
    (config.after step).2 = (step.run config).2 := by
  rw [after]
  rcases step.run config with ⟨_ | _, _⟩ <;> rfl

end Config

theorem ConfigStep.keepsCommand (step : ConfigStep) : step.configure.KeepsCommand := by
  cases step with
  | file content => exact .overlayFile content
  | environment layer => exact .overlay layer
  | option line => exact .setPython line

namespace Config.HasCommand

variable {config : Config}

theorem afterChange (has : config.HasCommand) (change : ConfigChange) :
    (config.afterChange change).HasCommand := by
  cases change with
  | step step =>
    rw [Config.afterChange, after_snd]
    exact step.keepsCommand config has
  | load file environment =>
    rw [Config.afterChange]
    split
    · rename_i loaded loads
      exact hasCommand_of_build (.layers file environment) loads
    · exact has

theorem afterChanges (has : config.HasCommand) (changes : List ConfigChange) :
    (config.afterChanges changes).HasCommand := by
  induction changes generalizing config with
  | nil => exact has
  | cons change changes ih => exact ih (has.afterChange change)

end Config.HasCommand

/-! ## Words of a command -/

namespace Command

/-- The words of a command, its program first. -/
def words (command : Command) : List String := command.program :: command.arguments

theorem ofWords?_eq_some_iff {words : List String} {command : Command} :
    ofWords? words = some command ↔ command.words = words := by
  cases words with
  | nil => exact iff_of_false nofun nofun
  | cons program arguments =>
    rcases command with ⟨program', arguments'⟩
    simp only [ofWords?, Command.words, Option.some.injEq, mk.injEq, List.cons.injEq]
    exact and_congr eq_comm eq_comm

theorem ofLine_eq_ok_iff {line : String} {command : Command} :
    ofLine line = .ok command ↔ splitWords line = some command.words := by
  rw [ofLine]
  rcases splitWords line with _ | _ | ⟨program, arguments⟩
  · exact iff_of_false nofun nofun
  · exact iff_of_false nofun nofun
  · cases command
    simp [ofWords?, words]

/-- The ways to come to a command, with the words that it is made of. -/
inductive Made : List String → Command → Prop
  | ofWords {words : List String} {command : Command} :
    ofWords? words = some command → Made words command
  | ofLine {line : String} {words : List String} {command : Command} :
    splitWords line = some words → ofLine line = .ok command → Made words command

theorem Made.words {words : List String} {command : Command} (made : Made words command) :
    command.words = words := by
  cases made with
  | ofWords made => exact ofWords?_eq_some_iff.mp made
  | ofLine split made => exact Option.some.inj ((ofLine_eq_ok_iff.mp made).symm.trans split)

/-- The first word is there, and it is the program; the arguments are the other words. -/
theorem Made.inside {words : List String} {command : Command} (made : Made words command) :
    ∃ inside : 0 < words.length, command = ⟨words[0], words.drop 1⟩ := by
  obtain rfl := made.words
  exact ⟨Nat.succ_pos _, rfl⟩

end Command

/-- A command line is good for a configuration just if it is good for an interpreter, and then both
have the same words. -/
theorem Config.after_setPython (line : String) (config : Config) :
    match Command.ofLine line with
    | .ok command =>
      config.after (setPython line) = (none, { config with python := command.words })
    | .error _ => config.after (setPython line) = (some (.badCommand line), config) := by
  rw [after, setPython_run, ConfigLayer.settings]
  simp only [splitCommand, Command.ofLine]
  rcases splitWords line with _ | _ | ⟨program, arguments⟩ <;> rfl

/-! ## Calls of children -/

namespace Command

variable {ω ι : Type} (command : Command) (host : Host ω)
  (world : ω × List (Command × List String))

/-- To boot an interpreter is to run its command once. -/
theorem boot_calls :
    ((command.interpreter host.recorded).boot world).2.2 =
      world.2 ++ [(command, ChildInterpreter.probeArguments)] :=
  rfl

/-- To execute a program is to start the command once, however the conversation goes. -/
theorem execute_calls (who : Answerer ι) (source : String) (answers : ι) :
    (((command.interpreter host.recorded).execute source world).play who answers).result.2.2 =
      world.2 ++ [(command, ChildInterpreter.runArguments)] := by
  simp only [interpreter, Dialogue.play_map]
  rfl

end Command

/-! ## Starts -/

/-- A text that begins in another way is not what is said of a lack of words. -/
theorem append_ne_emptyCommand (front rest : String)
    (apart : ¬ front.toList <+: BootError.emptyCommand.message.toList) :
    front ++ rest ≠ BootError.emptyCommand.message := by
  intro same
  apply apart
  rw [← same, String.toList_append]
  exact List.prefix_append _ _

theorem ConfigError.message_ne_emptyCommand (e : ConfigError) (path : String) :
    e.message path ≠ BootError.emptyCommand.message := by
  cases e with
  | unreadable => exact append_ne_emptyCommand "failed to read config file " path (by decide)
  | malformed => exact append_ne_emptyCommand "invalid config file " path (by decide)
  | badCommand line =>
    change "could not split interpreter command `" ++ line ++ "`" ≠ _
    rw [String.append_assoc]
    exact append_ne_emptyCommand "could not split interpreter command `" _ (by decide)

/-- A start that stops never does so for the lack of a command. -/
theorem complaint_ne_emptyCommand {arguments : List String} {surroundings : Surroundings}
    {outcome : Outcome} (stops : taskOfArguments arguments surroundings = .error outcome) :
    outcome.complaint ≠ BootError.emptyCommand.message := by
  rw [taskOfArguments] at stops
  cases reads : Options.read arguments with
  | error stop =>
    rw [reads] at stops
    cases stops
    cases stop <;> decide
  | ok options =>
    simp only [reads, taskOf] at stops
    cases configured : configOf options surroundings with
    | error e =>
      rw [configured] at stops
      cases stops
      exact e.message_ne_emptyCommand _
    | ok config =>
      obtain ⟨command, named⟩ := configOf_command configured
      simp only [configured, named] at stops
      split at stops
      · cases stops
      · split at stops
        · cases stops
          exact append_ne_emptyCommand "could not read " _ (by decide)
        · cases stops

/-- Whatever changes a configuration goes through, refused ones among them, it has a word for a
program. So where a program starts with a configuration there is a command, and no start stops for
the lack of one. Of the words that a command is made of, in either way, there is a first one and the
ones behind it, and these are what its interpreter starts, to boot as well as to execute a program.
An interpreter takes a command line just if a configuration does, with the same words. -/
theorem Config.always_names_command {ω : Type} (host : Host ω)
    (world : ω × List (Command × List String)) :
    (∀ changes : List ConfigChange, (default.afterChanges changes).python ≠ []) ∧
      (∀ (options : Options) (surroundings : Surroundings) (config : Config),
        configOf options surroundings = .ok config →
          ∃ command, Command.ofWords? config.python = some command ∧
            command.words = config.python) ∧
      (∀ (arguments : List String) (surroundings : Surroundings) (outcome : Outcome),
        taskOfArguments arguments surroundings = .error outcome →
          outcome.complaint ≠ BootError.emptyCommand.message) ∧
      (∀ (words : List String) (command : Command), Command.Made words command →
        ∃ inside : 0 < words.length,
          let started : Command := ⟨words[0], words.drop 1⟩
          ((command.interpreter host.recorded).boot world).2.2 =
              world.2 ++ [(started, ChildInterpreter.probeArguments)] ∧
            ∀ {ι : Type} (who : Answerer ι) (source : String) (answers : ι),
              (((command.interpreter host.recorded).execute source world).play who
                  answers).result.2.2 =
                world.2 ++ [(started, ChildInterpreter.runArguments)]) ∧
      ∀ (line : String) (config : Config),
        match Command.ofLine line with
        | .ok command =>
          config.after (setPython line) = (none, { config with python := command.words })
        | .error _ => config.after (setPython line) = (some (.badCommand line), config) := by
  refine ⟨default_hasCommand.afterChanges, ?_, ?_, ?_, after_setPython⟩
  · intro options surroundings config configured
    obtain ⟨command, named⟩ := configOf_command configured
    exact ⟨command, named, Command.ofWords?_eq_some_iff.mp named⟩
  · intro arguments surroundings outcome stops
    exact complaint_ne_emptyCommand stops
  · intro words command made
    obtain ⟨inside, rfl⟩ := made.inside
    exact ⟨inside, Command.boot_calls _ host world, Command.execute_calls _ host world⟩

/-- A comment in place of a command, a quote that is not closed and a file that is not there, one
after another; then a command line whose first word holds a blank. -/
theorem Config.always_names_command_refused :
    let changes : List ConfigChange :=
      [.step (.option "# none"), .step (.environment ⟨some "'py", some "debug"⟩),
        .load (some none) .empty]
    let host : Host Unit :=
      ⟨fun _ _ _ => (.error .noSuchFile, ()), fun _ _ _ => (.error .noSuchFile, ())⟩
    let surroundings : Surroundings := ⟨⟨some "'my py' -I", none⟩, fun _ => none, []⟩
    let config : Config := ⟨["my py", "-I"], "pyexplain=info"⟩
    let command : Command := ⟨"my py", ["-I"]⟩
    (default.afterChanges changes).python ≠ [] ∧ configOf .initial surroundings = .ok config ∧
      (∃ named, Command.ofWords? config.python = some named ∧ named.words = config.python) ∧
      Command.Made ["my py", "-I"] command ∧
      ((command.interpreter host.recorded).boot ((), [])).2.2 =
        [(command, ChildInterpreter.probeArguments)] ∧
      default.after (setPython "'my py' -I") = (none, config) := by
  intro changes host surroundings config command
  have configured : configOf .initial surroundings = .ok config := rfl
  have made : Command.Made ["my py", "-I"] command := @Command.Made.ofLine "'my py' -I" _ _ rfl rfl
  obtain ⟨always, starts, -, inside, lines⟩ := Config.always_names_command host ((), [])
  obtain ⟨_, boots, -⟩ := inside _ _ made
  exact ⟨always changes, configured, starts _ _ _ configured, made, boots,
    lines "'my py' -I" default⟩

end Tutor
