import Tutor.Child.Basic
import Tutor.Config.Basic

/-!
A configuration always has a command to run.

The words of a command line are only taken if there are any, so a step that starts from a
configuration with a command leads to one with a command, whether it succeeds or is refused
(`Configure.KeepsCommand`). The defaults have one, and so has every configuration that is built over
them (`Config.hasCommand_of_build`).
-/

namespace Tutor

/-- There is a program to start. -/
def Config.HasCommand (config : Config) : Prop := config.python ≠ []

theorem Config.default_hasCommand : default.HasCommand := List.cons_ne_nil _ _

theorem Config.HasCommand.ofWords? {config : Config} (has : config.HasCommand) :
    ∃ command, Command.ofWords? config.python = some command := by
  obtain ⟨program, arguments, words⟩ := List.exists_cons_of_ne_nil has
  rw [words]
  exact ⟨_, rfl⟩

namespace Configure

variable {α β : Type}

/-- What comes behind a step starts from the configuration that the step left, unless the step was
refused. -/
theorem run_bind (step : Configure α) (next : α → Configure β) (config : Config) :
    (step >>= next).run config =
      match step.run config with
      | (.ok a, after) => (next a).run after
      | (.error e, after) => (.error e, after) := by
  change (ExceptT.bindCont next (step.run config).1).run (step.run config).2 = _
  rcases step.run config with ⟨e | a, after⟩ <;> rfl

/-- A step that does not lose the command, also where it is refused. -/
def KeepsCommand (step : Configure α) : Prop :=
  ∀ config : Config, config.HasCommand → (step.run config).2.HasCommand

namespace KeepsCommand

/-! ## Steps in general -/

theorem pure (a : α) : KeepsCommand (Pure.pure a) := fun _ has => has

theorem throw (e : ConfigError) : KeepsCommand (throw e : Configure α) := fun _ has => has

theorem modify {f : Config → Config}
    (keeps : ∀ config : Config, config.HasCommand → (f config).HasCommand) :
    KeepsCommand (modify f) := keeps

theorem bind {step : Configure α} {next : α → Configure β} (first : KeepsCommand step)
    (rest : ∀ a, KeepsCommand (next a)) : KeepsCommand (step >>= next) := by
  intro config has
  have kept := first config has
  rw [run_bind]
  rcases outcome : step.run config with ⟨e | a, after⟩
  · rwa [outcome] at kept
  · rw [outcome] at kept
    exact rest a after kept

/-! ## The layers -/

theorem setPython (line : String) : KeepsCommand (Config.setPython line) := by
  unfold Config.setPython Config.splitCommand
  split
  · rename_i word words split
    exact modify fun _ _ => List.cons_ne_nil word words
  · exact throw _

theorem overlay (layer : ConfigLayer) : KeepsCommand (Config.overlay layer) := by
  rcases layer with ⟨_ | line, _ | logFilter⟩
  · exact pure ()
  · exact modify fun _ has => has
  · exact bind (setPython line) fun _ => pure ()
  · exact bind (setPython line) fun _ => modify fun _ has => has

theorem overlayFile (content : FileContent) : KeepsCommand (Config.overlayFile content) := by
  unfold Config.overlayFile
  split
  · exact throw _
  · split
    · exact throw _
    · exact overlay _

theorem layers (file : Option FileContent) (environment : ConfigLayer) :
    KeepsCommand (Config.layers file environment) := by
  cases file with
  | none => exact overlay environment
  | some content => exact bind (overlayFile content) fun _ => overlay environment

end KeepsCommand

end Configure

theorem Config.hasCommand_of_build {steps : Configure Unit} (keeps : steps.KeepsCommand)
    {config : Config} (builds : build steps = .ok config) : config.HasCommand := by
  have kept := keeps default default_hasCommand
  rw [build, after] at builds
  rcases outcome : steps.run default with ⟨e | done, after⟩
  · rw [outcome] at builds
    cases builds
  · rw [outcome] at builds kept
    cases builds
    exact kept

end Tutor
