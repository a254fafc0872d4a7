import Mathlib.Data.List.Induction
import Tutor.Proofs.Config.Command
import Tutor.Proofs.Text.Decoding

/-!
Steps that change the configuration.

A step reads all that it gives before it changes anything: `ConfigStep.read` says what that is, or
why there is nothing, and `ConfigStep.configure_run` that the step does just this. What a step
gives, and when it fails, is said of the texts alone (`ConfigStep.Gives`, `ConfigStep.Fails`), and
the reading of a step agrees with it (`ConfigStep.read_eq_ok_iff`, `ConfigStep.read_eq_error_iff`).
So a step that fails leaves the configuration alone, and over a history each setting is the last
that a successful step gave (`Config.last_success_decides`).
-/

namespace Tutor

/-! ## What a step gives -/

/-- Settings that are ready to be laid over a configuration, with the command in words. -/
structure Settings where
  python : Option (List String)
  logFilter : Option String
  deriving DecidableEq, Repr

/-- The configuration with these settings laid over it. -/
def Settings.over (settings : Settings) (config : Config) : Config :=
  ⟨settings.python.getD config.python, settings.logFilter.getD config.logFilter⟩

/-- The settings of a layer, if its command has words. -/
def ConfigLayer.settings (layer : ConfigLayer) : Except ConfigError Settings :=
  match layer.python with
  | none => .ok ⟨none, layer.logFilter⟩
  | some line => (Config.splitCommand line).map fun words => ⟨some words, layer.logFilter⟩

/-- The three ways to change a configuration. -/
inductive ConfigStep
  | file (content : FileContent)
  | environment (layer : ConfigLayer)
  | option (line : String)
  deriving DecidableEq, Repr

namespace ConfigStep

/-- The step as it is taken. -/
def configure : ConfigStep → Configure Unit
  | file content => Config.overlayFile content
  | environment layer => Config.overlay layer
  | option line => Config.setPython line

/-- The layer that a step brings, if it can be read. -/
def layer : ConfigStep → Except ConfigError ConfigLayer
  | file content =>
    match content.text? with
    | none => .error .unreadable
    | some text =>
      match ConfigLayer.ofToml? text with
      | none => .error .malformed
      | some layer => .ok layer
  | environment layer => .ok layer
  | option line => .ok ⟨some line, none⟩

/-- What a step gives, or why it is refused, whatever the configuration is. -/
def read (step : ConfigStep) : Except ConfigError Settings := step.layer.bind ConfigLayer.settings

end ConfigStep

/-! ## One step -/

/-- What becomes of a configuration under a step that gives this. -/
def Config.take (config : Config) : Except ConfigError Settings → Except ConfigError Unit × Config
  | .ok settings => (.ok (), settings.over config)
  | .error e => (.error e, config)

theorem Config.setPython_run (line : String) (config : Config) :
    (setPython line).run config = config.take (ConfigLayer.settings ⟨some line, none⟩) := by
  rw [setPython, Configure.run_bind, ConfigLayer.settings]
  simp only
  cases splitCommand line with
  | error e => rfl
  | ok words => rfl

/-- The log filter is set behind the command, where nothing can go wrong any more. -/
theorem Config.overlay_run (layer : ConfigLayer) (config : Config) :
    (overlay layer).run config = config.take layer.settings := by
  rcases layer with ⟨_ | line, logFilter⟩
  · cases logFilter <;> rfl
  · have parts : overlay ⟨some line, logFilter⟩ =
        (setPython line >>= fun _ => overlay ⟨none, logFilter⟩) := by
      cases logFilter <;> rfl
    rw [parts, Configure.run_bind, setPython_run, ConfigLayer.settings, ConfigLayer.settings]
    simp only
    cases splitCommand line with
    | error e => rfl
    | ok words => cases logFilter <;> rfl

theorem Config.overlayFile_run (content : FileContent) (config : Config) :
    (overlayFile content).run config = config.take (ConfigStep.file content).read := by
  rw [overlayFile, ConfigStep.read, ConfigStep.layer]
  cases content.text? with
  | none => rfl
  | some text =>
    simp only
    cases ConfigLayer.ofToml? text with
    | none => rfl
    | some layer => exact overlay_run layer config

/-- A step that gives settings lays them over the configuration, and any other leaves it alone. -/
theorem ConfigStep.configure_run (step : ConfigStep) (config : Config) :
    step.configure.run config = config.take step.read := by
  cases step with
  | file content => exact config.overlayFile_run content
  | environment layer => exact config.overlay_run layer
  | option line => exact config.setPython_run line

theorem ConfigStep.after_of_ok {step : ConfigStep} {settings : Settings}
    (gives : step.read = .ok settings) (config : Config) :
    config.after step.configure = (none, settings.over config) := by
  rw [Config.after, step.configure_run, gives]
  rfl

theorem ConfigStep.after_of_error {step : ConfigStep} {e : ConfigError}
    (refused : step.read = .error e) (config : Config) :
    config.after step.configure = (some e, config) := by
  rw [Config.after, step.configure_run, refused]
  rfl

/-! ## The layer of a text -/

/-- A command line that splits into words, at least one. -/
def HasWords (line : String) : Prop := ∃ word words, splitWords line = some (word :: words)

namespace ConfigLayer

/-- The settings of a layer whose command has words. -/
def words (layer : ConfigLayer) : Settings := ⟨layer.python.bind splitWords, layer.logFilter⟩

/-- The text is TOML without other keys than those of the settings, and gives this layer. TOML
takes no key twice. -/
def OfText (text : List Char) (layer : ConfigLayer) : Prop :=
  ∃ entries, Toml.read? text = some entries ∧ (entries.map Prod.fst).Nodup ∧
    (∀ key ∈ entries.map Prod.fst, key = "python" ∨ key = "log") ∧
    layer = ⟨entries.lookup "python", entries.lookup "log"⟩

/-- These entries can be added to a layer: no key comes twice, and each is a setting that the layer
does not have. -/
def Admits (layer : ConfigLayer) (entries : List (String × String)) : Prop :=
  (entries.map Prod.fst).Nodup ∧ ∀ key ∈ entries.map Prod.fst,
    key = "python" ∧ layer.python = none ∨ key = "log" ∧ layer.logFilter = none

/-- A layer and what entries give beyond it. -/
def withEntries (layer : ConfigLayer) (entries : List (String × String)) : ConfigLayer :=
  ⟨layer.python.or (entries.lookup "python"), layer.logFilter.or (entries.lookup "log")⟩

theorem admits_python {layer : ConfigLayer} (absent : layer.python = none) (value : String)
    (entries : List (String × String)) :
    layer.Admits (("python", value) :: entries) ↔
      { layer with python := some value }.Admits entries := by
  simp only [Admits, List.map_cons, List.nodup_cons, List.forall_mem_cons, absent]
  grind

theorem admits_log {layer : ConfigLayer} (absent : layer.logFilter = none) (value : String)
    (entries : List (String × String)) :
    layer.Admits (("log", value) :: entries) ↔
      { layer with logFilter := some value }.Admits entries := by
  simp only [Admits, List.map_cons, List.nodup_cons, List.forall_mem_cons, absent]
  grind

theorem withEntries_python {layer : ConfigLayer} (absent : layer.python = none) (value : String)
    (entries : List (String × String)) :
    layer.withEntries (("python", value) :: entries) =
      { layer with python := some value }.withEntries entries := by
  simp only [withEntries, absent]
  rfl

theorem withEntries_log {layer : ConfigLayer} (absent : layer.logFilter = none) (value : String)
    (entries : List (String × String)) :
    layer.withEntries (("log", value) :: entries) =
      { layer with logFilter := some value }.withEntries entries := by
  simp only [withEntries, absent]
  rfl

theorem foldlM_add?_iff {entries : List (String × String)} {start layer : ConfigLayer} :
    entries.foldlM add? start = some layer ↔
      start.Admits entries ∧ layer = start.withEntries entries := by
  induction entries generalizing start with
  | nil => simp [Admits, withEntries, eq_comm]
  | cons entry entries ih =>
    obtain ⟨key, value⟩ := entry
    rw [List.foldlM_cons, add?]
    by_cases python : key = "python" ∧ start.python = none
    · obtain ⟨rfl, absent⟩ := python
      rw [if_pos ⟨rfl, absent⟩, admits_python absent, withEntries_python absent]
      exact ih
    · rw [if_neg python]
      by_cases log : key = "log" ∧ start.logFilter = none
      · obtain ⟨rfl, absent⟩ := log
        rw [if_pos ⟨rfl, absent⟩, admits_log absent, withEntries_log absent]
        exact ih
      · have refused : ¬ start.Admits ((key, value) :: entries) := fun admits =>
          (admits.2 key List.mem_cons_self).elim python log
        rw [if_neg log]
        exact iff_of_false nofun fun both => refused both.1

/-- A text is accepted by its keys alone, once it is read. -/
theorem ofToml?_eq_some_iff {text : List Char} {layer : ConfigLayer} :
    ofToml? text = some layer ↔ OfText text layer := by
  rw [ofToml?, Option.bind_eq_bind, Option.bind_eq_some_iff]
  refine exists_congr fun entries => and_congr_right fun _ => ?_
  rw [foldlM_add?_iff, Admits, withEntries, empty, and_assoc]
  simp only [and_true, Option.none_or]

theorem settings_eq_ok_iff {layer : ConfigLayer} {settings : Settings} :
    layer.settings = .ok settings ↔
      (∀ line ∈ layer.python, HasWords line) ∧ settings = layer.words := by
  rcases layer with ⟨_ | line, logFilter⟩
  · simp [ConfigLayer.settings, words, eq_comm]
  · rcases split : splitWords line with _ | _ | ⟨word, rest⟩ <;>
      simp [ConfigLayer.settings, words, Config.splitCommand, HasWords, Except.map, split, eq_comm]

theorem settings_eq_error_iff {layer : ConfigLayer} {e : ConfigError} :
    layer.settings = .error e ↔
      ∃ line, layer.python = some line ∧ ¬ HasWords line ∧ e = .badCommand line := by
  rcases layer with ⟨_ | line, logFilter⟩
  · simp [settings]
  · rcases split : splitWords line with _ | _ | ⟨word, rest⟩ <;>
      simp [settings, Config.splitCommand, HasWords, Except.map, split, eq_comm]

end ConfigLayer

/-! ## What a step gives, and when it fails -/

theorem FileContent.text?_eq_some_iff {content : FileContent} {text : List Char} :
    content.text? = some text ↔ content = some (Utf8.encode text) := by
  rw [text?, Option.bind_eq_some_iff]
  constructor
  · intro ⟨bytes, same, reads⟩
    rw [same, Utf8.encode_of_read? reads]
  · intro same
    exact ⟨_, same, Utf8.read?_encode text⟩

namespace ConfigStep

/-- The layer of a step, which for a file must be a text. -/
inductive Gives : ConfigStep → ConfigLayer → Prop
  | file {text : List Char} {layer : ConfigLayer} (reads : layer.OfText text) :
      Gives (.file (some (Utf8.encode text))) layer
  | environment (layer : ConfigLayer) : Gives (.environment layer) layer
  | option (line : String) : Gives (.option line) ⟨some line, none⟩

/-- A step that fails, and what it reports. -/
inductive Fails : ConfigStep → ConfigError → Prop
  | unreadable {content : FileContent} (noText : ∀ text, content ≠ some (Utf8.encode text)) :
      Fails (.file content) .unreadable
  | malformed {text : List Char} (noLayer : ∀ layer, ¬ ConfigLayer.OfText text layer) :
      Fails (.file (some (Utf8.encode text))) .malformed
  | badCommand {step : ConfigStep} {layer : ConfigLayer} {line : String} (gives : step.Gives layer)
      (given : layer.python = some line) (noWords : ¬ HasWords line) : Fails step (.badCommand line)

/-- The reading of a layer agrees with what is said of the texts, whichever way it ends. -/
theorem layer_agrees (step : ConfigStep) :
    match step.layer with
    | .ok layer => step.Gives layer
    | .error e => step.Fails e := by
  cases step with
  | file content =>
    rw [ConfigStep.layer]
    cases isText : content.text? with
    | none =>
      refine Fails.unreadable fun text same => ?_
      rw [FileContent.text?_eq_some_iff.mpr same] at isText
      cases isText
    | some text =>
      rw [FileContent.text?_eq_some_iff.mp isText]
      simp only
      cases isToml : ConfigLayer.ofToml? text with
      | none =>
        refine Fails.malformed fun layer reads => ?_
        rw [ConfigLayer.ofToml?_eq_some_iff.mpr reads] at isToml
        cases isToml
      | some layer => exact Gives.file (ConfigLayer.ofToml?_eq_some_iff.mp isToml)
  | environment layer => exact .environment layer
  | option line => exact .option line

theorem layer_eq_ok_iff {step : ConfigStep} {layer : ConfigLayer} :
    step.layer = .ok layer ↔ step.Gives layer := by
  constructor
  · intro given
    have agrees := step.layer_agrees
    rwa [given] at agrees
  · intro gives
    cases gives with
    | file reads =>
      rw [ConfigStep.layer, FileContent.text?_eq_some_iff.mpr rfl]
      simp only [ConfigLayer.ofToml?_eq_some_iff.mpr reads]
    | environment layer => rfl
    | option line => rfl

theorem read_eq_ok_iff {step : ConfigStep} {settings : Settings} :
    step.read = .ok settings ↔
      ∃ layer, step.Gives layer ∧ (∀ line ∈ layer.python, HasWords line) ∧
        settings = layer.words := by
  simp only [read, ← layer_eq_ok_iff]
  cases step.layer with
  | error e => simp [Except.bind]
  | ok layer => simp [Except.bind, ConfigLayer.settings_eq_ok_iff]

theorem read_eq_error_iff {step : ConfigStep} {e : ConfigError} :
    step.read = .error e ↔ step.Fails e := by
  constructor
  · intro refused
    rw [read] at refused
    cases given : step.layer with
    | error cause =>
      have agrees := step.layer_agrees
      rw [given] at refused agrees
      cases refused
      exact agrees
    | ok layer =>
      rw [given] at refused
      obtain ⟨line, python, noWords, rfl⟩ := ConfigLayer.settings_eq_error_iff.mp refused
      exact .badCommand (layer_eq_ok_iff.mp given) python noWords
  · intro fails
    rw [read]
    cases fails with
    | @unreadable content noText =>
      have unread : content.text? = none :=
        Option.eq_none_iff_forall_ne_some.mpr fun text isText =>
          noText text (FileContent.text?_eq_some_iff.mp isText)
      rw [ConfigStep.layer, unread]
      rfl
    | @malformed text noLayer =>
      have unread : ConfigLayer.ofToml? text = none :=
        Option.eq_none_iff_forall_ne_some.mpr fun layer reads =>
          noLayer layer (ConfigLayer.ofToml?_eq_some_iff.mp reads)
      rw [ConfigStep.layer, FileContent.text?_eq_some_iff.mpr rfl]
      simp only [unread]
      rfl
    | badCommand gives given noWords =>
      rw [layer_eq_ok_iff.mpr gives]
      exact ConfigLayer.settings_eq_error_iff.mpr ⟨_, given, noWords, rfl⟩

end ConfigStep

/-! ## Many steps -/

namespace ConfigStep

/-- A step that succeeds, and the layer that it brings: if a command is given, it has words. -/
def Succeeds (step : ConfigStep) (layer : ConfigLayer) : Prop :=
  step.Gives layer ∧ ∀ line ∈ layer.python, HasWords line

/-- A step that succeeds and gives a command with these words. -/
def GivesWords (step : ConfigStep) (words : List String) : Prop :=
  ∃ layer line, step.Succeeds layer ∧ layer.python = some line ∧ splitWords line = some words

/-- A step that succeeds and gives this log filter. -/
def GivesLog (step : ConfigStep) (logFilter : String) : Prop :=
  ∃ layer, step.Succeeds layer ∧ layer.logFilter = some logFilter

/-- The command that a step sets, if it succeeds and gives one. -/
def python? (step : ConfigStep) : Option (List String) := step.read.toOption.bind Settings.python

/-- The log filter that a step sets, if it succeeds and gives one. -/
def logFilter? (step : ConfigStep) : Option String := step.read.toOption.bind Settings.logFilter

theorem toOption_read_eq_some_iff {step : ConfigStep} {settings : Settings} :
    step.read.toOption = some settings ↔
      ∃ layer, step.Succeeds layer ∧ settings = layer.words := by
  have reads : step.read.toOption = some settings ↔ step.read = .ok settings := by
    cases step.read <;> simp [Except.toOption]
  simp only [reads, read_eq_ok_iff, Succeeds, and_assoc]

theorem python?_eq_some_iff {step : ConfigStep} {words : List String} :
    step.python? = some words ↔ step.GivesWords words := by
  simp only [python?, Option.bind_eq_some_iff, toOption_read_eq_some_iff]
  constructor
  · intro ⟨settings, ⟨layer, succeeds, same⟩, given⟩
    rw [same] at given
    obtain ⟨line, hasLine, split⟩ := Option.bind_eq_some_iff.mp given
    exact ⟨layer, line, succeeds, hasLine, split⟩
  · intro ⟨layer, line, succeeds, hasLine, split⟩
    exact ⟨_, ⟨layer, succeeds, rfl⟩, Option.bind_eq_some_iff.mpr ⟨line, hasLine, split⟩⟩

theorem logFilter?_eq_some_iff {step : ConfigStep} {logFilter : String} :
    step.logFilter? = some logFilter ↔ step.GivesLog logFilter := by
  simp only [logFilter?, Option.bind_eq_some_iff, toOption_read_eq_some_iff]
  constructor
  · intro ⟨settings, ⟨layer, succeeds, same⟩, given⟩
    rw [same] at given
    exact ⟨layer, succeeds, given⟩
  · intro ⟨layer, succeeds, given⟩
    exact ⟨_, ⟨layer, succeeds, rfl⟩, given⟩

/-- A step sets each setting by itself, whether it succeeds or not. -/
theorem after_settings (step : ConfigStep) (config : Config) :
    (config.after step.configure).2 =
      ⟨step.python?.getD config.python, step.logFilter?.getD config.logFilter⟩ := by
  unfold python? logFilter?
  cases gives : step.read with
  | ok settings =>
    rw [after_of_ok gives]
    rfl
  | error e =>
    rw [after_of_error gives]
    rfl

theorem succeeds_or_fails (step : ConfigStep) :
    (∃ layer, step.Succeeds layer) ∨ ∃ e, step.Fails e := by
  cases gives : step.read with
  | ok settings =>
    obtain ⟨layer, brings, words, -⟩ := read_eq_ok_iff.mp gives
    exact .inl ⟨layer, brings, words⟩
  | error e => exact .inr ⟨e, read_eq_error_iff.mp gives⟩

end ConfigStep

/-- The value that the last of some steps with one gave, or the value at the start if no step gave
any. -/
inductive LastGiven {α : Type} (given : ConfigStep → α → Prop) (start : α) :
    List ConfigStep → α → Prop
  | step {before behind : List ConfigStep} {step : ConfigStep} {value : α} :
    given step value → (∀ later ∈ behind, ∀ other, ¬ given later other) →
    LastGiven given start (before ++ step :: behind) value
  | none {steps : List ConfigStep} :
    (∀ step ∈ steps, ∀ value, ¬ given step value) → LastGiven given start steps start

/-- A value that each step may replace is in the end the last that was given. -/
theorem LastGiven.foldl {α : Type} {given : ConfigStep → α → Prop}
    {value? : ConfigStep → Option α}
    (agrees : ∀ {step value}, value? step = some value ↔ given step value) (start : α)
    (steps : List ConfigStep) :
    LastGiven given start steps
      (steps.foldl (fun value step => (value? step).getD value) start) := by
  induction steps using List.reverseRecOn with
  | nil => exact .none nofun
  | append_singleton steps step ih =>
    rw [List.foldl_append, List.foldl_cons, List.foldl_nil]
    cases gives : value? step with
    | some value => exact .step (agrees.mp gives) nofun
    | none =>
      have silent : ∀ later ∈ [step], ∀ other, ¬ given later other := by
        intro later member other
        rw [List.mem_singleton.mp member, ← agrees, gives]
        nofun
      rw [Option.getD_none]
      generalize steps.foldl (fun value step => (value? step).getD value) start = last at ih ⊢
      cases ih with
      | step gave behind =>
        rw [List.append_assoc]
        exact .step gave (List.forall_mem_append.mpr ⟨behind, silent⟩)
      | none never => exact .none (List.forall_mem_append.mpr ⟨never, silent⟩)

/-- The configuration after several steps, also where some are refused. -/
def Config.afterAll (config : Config) (steps : List ConfigStep) : Config :=
  steps.foldl (fun config step => (config.after step.configure).2) config

theorem Config.afterAll_python (config : Config) (steps : List ConfigStep) :
    (config.afterAll steps).python =
      steps.foldl (fun words step => step.python?.getD words) config.python := by
  refine (List.foldl_hom python fun config step => ?_).symm
  rw [step.after_settings]

theorem Config.afterAll_logFilter (config : Config) (steps : List ConfigStep) :
    (config.afterAll steps).logFilter =
      steps.foldl (fun logFilter step => step.logFilter?.getD logFilter) config.logFilter := by
  refine (List.foldl_hom logFilter fun config step => ?_).symm
  rw [step.after_settings]

/-- A step either succeeds, and changes just the settings that it gives, or it fails, and changes
nothing. So after any steps the command is made of the words of the last command that a successful
step gave, the log filter is the last that one gave, and each is the default where there was
none. -/
theorem Config.last_success_decides (steps : List ConfigStep) :
    (∀ (step : ConfigStep) (config : Config),
      (∀ layer, step.Succeeds layer → config.after step.configure =
        (none, ⟨(layer.python.bind splitWords).getD config.python,
          layer.logFilter.getD config.logFilter⟩)) ∧
      (∀ e, step.Fails e → config.after step.configure = (some e, config)) ∧
      ((∃ layer, step.Succeeds layer) ∨ ∃ e, step.Fails e)) ∧
      LastGiven ConfigStep.GivesWords ["python3"] steps (default.afterAll steps).python ∧
      LastGiven ConfigStep.GivesLog "pyexplain=info" steps (default.afterAll steps).logFilter := by
  refine ⟨?_, ?_, ?_⟩
  · intro step config
    refine ⟨?_, ?_, step.succeeds_or_fails⟩
    · intro layer succeeds
      have gives : step.read = .ok layer.words :=
        ConfigStep.read_eq_ok_iff.mpr ⟨layer, succeeds.1, succeeds.2, rfl⟩
      exact ConfigStep.after_of_ok gives config
    · intro e fails
      exact ConfigStep.after_of_error (ConfigStep.read_eq_error_iff.mpr fails) config
  · rw [default.afterAll_python]
    exact .foldl ConfigStep.python?_eq_some_iff _ steps
  · rw [default.afterAll_logFilter]
    exact .foldl ConfigStep.logFilter?_eq_some_iff _ steps

end Tutor
