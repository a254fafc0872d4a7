import Tutor.CommandLine.Run
import Tutor.Proofs.Config.Step
import Tutor.Proofs.Server.Arguments

/-!
The configuration that a program starts with.

Steps that are taken one after another end with the first that fails (`Config.build_forM`,
`Config.foldlM_take?_eq_error_iff`). With what a step gives, and when it fails, it is so seen when a
program can start, with what configuration, and what it reports if it cannot (`configOf_layers`).
-/

namespace Tutor

/-! ## Steps one after another -/

namespace Config

/-- Takes a step if it does not fail. -/
def take? (config : Config) (step : ConfigStep) : Except ConfigError Config :=
  step.read.map (·.over config)

/-- Steps one after another: each starts from the configuration that the one before left, and the
first that fails ends them. -/
theorem build_forM (steps : List ConfigStep) :
    build (forM steps ConfigStep.configure) = steps.foldlM take? default := by
  rw [build, after]
  generalize default = config
  induction steps generalizing config with
  | nil => rfl
  | cons step steps ih =>
    rw [List.forM_cons, Configure.run_bind, step.configure_run, List.foldlM_cons, take?]
    cases gives : step.read with
    | error e => rfl
    | ok settings => exact ih (settings.over config)

/-- The first step that fails says why there is no configuration. -/
theorem foldlM_take?_eq_error_iff {steps : List ConfigStep} {config : Config} {e : ConfigError} :
    steps.foldlM take? config = .error e ↔
      ∃ below step above, steps = below ++ step :: above ∧
        (∀ lower ∈ below, ∀ cause, ¬ lower.Fails cause) ∧ step.Fails e := by
  simp only [← ConfigStep.read_eq_error_iff]
  induction steps generalizing config with
  | nil =>
    apply iff_of_false nofun
    intro ⟨below, step, above, same, _⟩
    exact List.append_ne_nil_of_right_ne_nil below (List.cons_ne_nil step above) same.symm
  | cons step steps ih =>
    rw [List.foldlM_cons, take?]
    cases gives : step.read with
    | error cause =>
      constructor
      · intro refused
        cases refused
        exact ⟨[], step, steps, rfl, nofun, gives⟩
      · intro ⟨below, failing, above, same, sound, fails⟩
        rcases below with _ | ⟨lowest, below⟩
        · cases same
          rw [gives] at fails
          cases fails
          rfl
        · cases same
          exact absurd gives (sound step List.mem_cons_self cause)
    | ok settings =>
      apply (@ih (settings.over config)).trans
      constructor
      · intro ⟨below, failing, above, same, sound, fails⟩
        have succeeds : ∀ cause, step.read ≠ .error cause := by
          intro cause refused
          rw [gives] at refused
          cases refused
        exact ⟨step :: below, failing, above, congrArg (step :: ·) same,
          List.forall_mem_cons.mpr ⟨succeeds, sound⟩, fails⟩
      · intro ⟨below, failing, above, same, sound, fails⟩
        rcases below with _ | ⟨lowest, below⟩
        · cases same
          rw [gives] at fails
          cases fails
        · cases same
          exact ⟨below, failing, above, rfl, (List.forall_mem_cons.mp sound).2, fails⟩

end Config

/-! ## Layers one above another -/

/-- The layer of a step that may be left out, and then gives nothing. -/
def ConfigLayer.OfStep (layer : ConfigLayer) : Option ConfigStep → Prop
  | none => layer = .empty
  | some step => step.Gives layer

/-- A layer with another one under it. -/
def ConfigLayer.above (layer below : ConfigLayer) : ConfigLayer :=
  ⟨layer.python.or below.python, layer.logFilter.or below.logFilter⟩

theorem ConfigLayer.ofStep_option_iff {line : Option String} {layer : ConfigLayer} :
    layer.OfStep (line.map .option) ↔ layer = ⟨line, none⟩ := by
  cases line with
  | none => rfl
  | some line =>
    constructor
    · intro gives
      cases gives
      rfl
    · intro same
      rw [same]
      exact .option line

theorem ConfigLayer.over_words_above {layer : ConfigLayer}
    (hasWords : ∀ line ∈ layer.python, HasWords line) (below : ConfigLayer) (config : Config) :
    (layer.above below).words.over config = layer.words.over (below.words.over config) := by
  rcases layer with ⟨_ | line, logFilter⟩
  · cases logFilter <;> rfl
  · obtain ⟨word, words, split⟩ := hasWords line rfl
    cases logFilter <;> simp [ConfigLayer.words, above, Settings.over, split]

theorem Config.take?_eq_ok_iff {step : ConfigStep} {config after : Config} :
    config.take? step = .ok after ↔
      ∃ layer : ConfigLayer, step.Gives layer ∧ (∀ line ∈ layer.python, HasWords line) ∧
        after = layer.words.over config := by
  have given : config.take? step = .ok after ↔
      ∃ settings, step.read = .ok settings ∧ after = settings.over config := by
    rw [take?]
    cases step.read <;> simp [Except.map, eq_comm]
  simp only [given, ConfigStep.read_eq_ok_iff]
  constructor
  · intro taken
    rcases taken with ⟨_, ⟨layer, gives, hasWords, rfl⟩, same⟩
    exact ⟨layer, gives, hasWords, same⟩
  · intro ⟨layer, gives, hasWords, same⟩
    exact ⟨_, ⟨layer, gives, hasWords, rfl⟩, same⟩

theorem Config.foldlM_toList_eq_ok_iff {step : Option ConfigStep} {config after : Config} :
    step.toList.foldlM take? config = .ok after ↔
      ∃ layer : ConfigLayer, layer.OfStep step ∧ (∀ line ∈ layer.python, HasWords line) ∧
        after = layer.words.over config := by
  cases step with
  | none =>
    constructor
    · intro taken
      cases taken
      exact ⟨.empty, rfl, nofun, rfl⟩
    · intro taken
      rcases taken with ⟨_, rfl, -, rfl⟩
      rfl
  | some step =>
    rw [Option.toList_some, List.foldlM_cons, bind_ok_iff]
    simp only [List.foldlM_nil, pure, Except.pure, Except.ok.injEq, exists_eq_right]
    exact take?_eq_ok_iff

/-! ## Starting -/

/-- The steps of a start, from the lowest to the highest. -/
def startSteps (options : Options) (surroundings : Surroundings) : List ConfigStep :=
  ((options.config.map surroundings.files).map .file).toList ++
    .environment surroundings.environment :: (options.python.map .option).toList

theorem configOf_eq_build (options : Options) (surroundings : Surroundings) :
    configOf options surroundings =
      Config.build (forM (startSteps options surroundings) ConfigStep.configure) := by
  rw [configOf, startSteps]
  generalize options.config.map surroundings.files = file
  cases file <;> cases options.python <;> simp [Config.layers, ConfigStep.configure]

theorem foldlM_startSteps_eq_ok_iff {options : Options} {surroundings : Surroundings}
    {config : Config} :
    (startSteps options surroundings).foldlM Config.take? .default = .ok config ↔
      ∃ low : ConfigLayer, low.OfStep ((options.config.map surroundings.files).map .file) ∧
        (∀ line, low.python = some line ∨ surroundings.environment.python = some line ∨
          options.python = some line → HasWords line) ∧
        config = (ConfigLayer.above ⟨options.python, none⟩
          (surroundings.environment.above low)).words.over .default := by
  rw [startSteps, List.foldlM_append]
  constructor
  · intro started
    obtain ⟨_, file, started⟩ := bind_ok_iff.mp started
    obtain ⟨low, ofFile, lowWords, rfl⟩ := Config.foldlM_toList_eq_ok_iff.mp file
    rw [List.foldlM_cons] at started
    obtain ⟨_, environment, option⟩ := bind_ok_iff.mp started
    obtain ⟨_, ⟨⟩, words, rfl⟩ := Config.take?_eq_ok_iff.mp environment
    obtain ⟨high, gives, highWords, rfl⟩ := Config.foldlM_toList_eq_ok_iff.mp option
    obtain rfl := ConfigLayer.ofStep_option_iff.mp gives
    refine ⟨low, ofFile, ?_, ?_⟩
    · intro line given
      rcases given with given | given | given
      · exact lowWords line given
      · exact words line given
      · exact highWords line given
    · rw [ConfigLayer.over_words_above highWords, ConfigLayer.over_words_above words]
  · intro ⟨low, ofFile, hasWords, same⟩
    have words : ∀ line ∈ surroundings.environment.python, HasWords line :=
      fun line given => hasWords line (.inr (.inl given))
    have highWords : ∀ line ∈ options.python, HasWords line :=
      fun line given => hasWords line (.inr (.inr given))
    refine bind_ok_iff.mpr ⟨_, Config.foldlM_toList_eq_ok_iff.mpr
      ⟨low, ofFile, fun line given => hasWords line (.inl given), rfl⟩, ?_⟩
    rw [List.foldlM_cons]
    refine bind_ok_iff.mpr ⟨_, Config.take?_eq_ok_iff.mpr ⟨_, .environment _, words, rfl⟩, ?_⟩
    refine Config.foldlM_toList_eq_ok_iff.mpr
      ⟨_, ConfigLayer.ofStep_option_iff.mpr rfl, highWords, ?_⟩
    rw [same, ConfigLayer.over_words_above highWords, ConfigLayer.over_words_above words]

/-- A program starts just if the file, where one is named, is a text that gives a layer, and each
command that a layer gives has words, also one with another above it. The command is then that of
the highest layer with one, and so is the log filter. If it does not start, the lowest step that
fails says why. -/
theorem configOf_layers (options : Options) (surroundings : Surroundings) :
    (∀ config : Config, configOf options surroundings = .ok config ↔
      ∃ low : ConfigLayer, low.OfStep ((options.config.map surroundings.files).map .file) ∧
        (∀ line, low.python = some line ∨ surroundings.environment.python = some line ∨
          options.python = some line → HasWords line) ∧
        config.python = ((options.python.or (surroundings.environment.python.or low.python)).bind
          splitWords).getD Config.default.python ∧
        config.logFilter = (surroundings.environment.logFilter.or low.logFilter).getD
          Config.default.logFilter) ∧
    ∀ e : ConfigError, configOf options surroundings = .error e ↔
      ∃ below step above, startSteps options surroundings = below ++ step :: above ∧
        (∀ lower ∈ below, ∀ cause, ¬ lower.Fails cause) ∧ step.Fails e := by
  rw [configOf_eq_build, Config.build_forM]
  refine ⟨fun config => ?_, fun e => Config.foldlM_take?_eq_error_iff⟩
  rw [foldlM_startSteps_eq_ok_iff]
  refine exists_congr fun low => and_congr_right fun _ => and_congr_right fun _ => ?_
  cases config
  exact Iff.of_eq (Config.mk.injEq ..)

/-- A fault in the environment is not hidden by an option. -/
example (files : String → FileContent) (stdin : List UInt8) :
    configOf ⟨none, false, some "python3", none⟩ ⟨⟨some "'", none⟩, files, stdin⟩ =
      .error (.badCommand "'") := rfl

end Tutor
