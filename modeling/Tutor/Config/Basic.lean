import Tutor.Config.Toml
import Tutor.Config.Words
import Tutor.Text.Utf8

/-!
The configuration, and the layers that change it: a file, the environment, and an option of the
command line, each over what was there before. A step either succeeds or is refused with its
cause.
-/

namespace Tutor

/-- The settings of the program. -/
structure Config where
  /-- The interpreter program, followed by its arguments. -/
  python : List String
  /-- Which messages are logged. -/
  logFilter : String
  deriving DecidableEq, Repr

/-- Why a layer of the configuration was refused. -/
inductive ConfigError
  /-- The file is not there or is no text. -/
  | unreadable
  /-- The file is no TOML, or has a key that is no setting, or a setting that is no string. -/
  | malformed
  /-- The command line does not split into words, or has none. -/
  | badCommand (line : String)
  deriving DecidableEq, Repr

/-- The bytes of a file that can be read. -/
abbrev FileContent := Option (List UInt8)

/-- The text of a file, if it can be read and is text. -/
def FileContent.text? (content : FileContent) : Option (List Char) := content.bind Utf8.read?

/-- The settings that a layer gives. -/
structure ConfigLayer where
  python : Option String
  logFilter : Option String
  deriving DecidableEq, Repr

namespace ConfigLayer

/-- A layer without settings. -/
def empty : ConfigLayer := ⟨none, none⟩

/-- Adds the string of a key. A key that is no setting, or that comes a second time, is refused. -/
def add? (layer : ConfigLayer) (entry : String × String) : Option ConfigLayer :=
  if entry.1 = "python" ∧ layer.python = none then some { layer with python := some entry.2 }
  else if entry.1 = "log" ∧ layer.logFilter = none then
    some { layer with logFilter := some entry.2 }
  else none

/-- The settings that a text in TOML gives. -/
def ofToml? (text : List Char) : Option ConfigLayer := do
  (← Toml.read? text).foldlM add? empty

end ConfigLayer

/-- A step that changes the configuration, or is refused. A refused step keeps what it had changed
before. -/
abbrev Configure := ExceptT ConfigError (StateM Config)

namespace Config

/-- The settings where nothing else is said. -/
def default : Config := ⟨["python3"], "pyexplain=info"⟩

/-- The words of an interpreter's command line, at least one. -/
def splitCommand (line : String) : Except ConfigError (List String) :=
  match splitWords line with
  | some (word :: words) => .ok (word :: words)
  | _ => .error (.badCommand line)

/-- Sets the interpreter's command line. -/
def setPython (line : String) : Configure Unit := do
  let words ← (splitCommand line : Except ConfigError (List String))
  modify fun config => { config with python := words }

/-- Lays a layer over the configuration. -/
def overlay (layer : ConfigLayer) : Configure Unit := do
  if let some line := layer.python then
    setPython line
  if let some logFilter := layer.logFilter then
    modify fun config => { config with logFilter }

/-- Lays a file over the configuration. -/
def overlayFile (content : FileContent) : Configure Unit := do
  match content.text? with
  | none => throw .unreadable
  | some text =>
    match ConfigLayer.ofToml? text with
    | none => throw .malformed
    | some layer => overlay layer

/-- Takes a step: why it was refused, if it was, and the configuration after it. -/
def after (step : Configure Unit) (config : Config) : Option ConfigError × Config :=
  match step.run config with
  | (.ok (), config) => (none, config)
  | (.error e, config) => (some e, config)

/-- The configuration that steps over the defaults lead to, if none is refused. -/
def build (steps : Configure Unit) : Except ConfigError Config :=
  match after steps default with
  | (none, config) => .ok config
  | (some e, _) => .error e

/-- A file, if one is named, and then the environment. -/
def layers (file : Option FileContent) (environment : ConfigLayer) : Configure Unit := do
  if let some content := file then
    overlayFile content
  overlay environment

/-- The configuration from a file, if one is named, and then the environment. -/
def load (file : Option FileContent) (environment : ConfigLayer) : Except ConfigError Config :=
  build (layers file environment)

end Config

/-- What is reported of a refused layer; the texts about files name the file. -/
def ConfigError.message (path : String) : ConfigError → String
  | unreadable => "failed to read config file " ++ path
  | malformed => "invalid config file " ++ path
  | badCommand line => "could not split interpreter command `" ++ line ++ "`"

end Tutor
