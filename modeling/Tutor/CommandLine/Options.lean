/-!
The options of the command line.

Arguments are read from left to right, and the first that asks for help or the version, or that
cannot be understood, decides. Behind `--` every argument is the name of a file.
-/

namespace Tutor

/-- What the arguments ask for. -/
structure Options where
  file : Option String
  serve : Bool
  python : Option String
  config : Option String
  deriving DecidableEq, Repr

/-- Why arguments do not lead to a run of the program. -/
inductive OptionsEnd
  | help
  | version
  /-- The arguments cannot be understood. -/
  | misuse
  deriving DecidableEq, Repr

namespace Options

/-- Before the first argument. -/
def initial : Options := ⟨none, false, none, none⟩

/-- Sets the file. There is at most one, and its name is not empty. -/
def withFile (options : Options) (name : String) : Except OptionsEnd Options :=
  if options.file.isSome || name = "" then .error .misuse
  else .ok { options with file := name }

/-- Sets an option that has a value, at most once. The name of a file is not empty. -/
def withValue (options : Options) (name value : String) : Except OptionsEnd Options :=
  if name = "python" ∧ options.python = none then .ok { options with python := value }
  else if name = "config" ∧ options.config = none ∧ value ≠ "" then
    .ok { options with config := value }
  else .error .misuse

/-- Sets an option that has no value, at most once. -/
def withFlag (options : Options) (name : String) : Except OptionsEnd Options :=
  if name = "help" then .error .help
  else if name = "version" then .error .version
  else if name = "serve" ∧ !options.serve then .ok { options with serve := true }
  else .error .misuse

/-- Whether an option is followed by its value. -/
def needsValue (name : String) : Bool := name == "python" || name == "config"

/-- Whether an argument can only be an option: it begins with a dash and goes on. -/
def isDashed (argument : String) : Bool :=
  match argument.toList with
  | '-' :: _ :: _ => true
  | _ => false

/-- The name and the value, if there is an equals sign, of an option without its two dashes. -/
def splitOption (text : List Char) : String × Option String :=
  let name := String.ofList (text.takeWhile (· != '='))
  match text.dropWhile (· != '=') with
  | _ :: value => (name, some (String.ofList value))
  | [] => (name, none)

/-- Reads the arguments behind those that led to `options`. -/
def readFrom (options : Options) : List String → Except OptionsEnd Options
  | [] => .ok options
  | argument :: rest =>
    match argument.toList with
    | ['-', '-'] => rest.foldlM withFile options
    | '-' :: '-' :: text =>
      match splitOption text, rest with
      | (name, some value), rest => do readFrom (← options.withValue name value) rest
      | (name, none), rest =>
        if needsValue name then
          match rest with
          | [] => .error .misuse
          | value :: rest =>
            if isDashed value then .error .misuse
            else do readFrom (← options.withValue name value) rest
        else do readFrom (← options.withFlag name) rest
    | '-' :: letter :: _ =>
      if letter = 'h' then .error .help
      else if letter = 'V' then .error .version
      else .error .misuse
    | _ => do readFrom (← options.withFile argument) rest

/-- Reads the arguments of a command line. -/
def read (arguments : List String) : Except OptionsEnd Options := readFrom initial arguments

end Options

/-- The text that tells the version. -/
def versionText : String := "pyexplain 0.1.0\n"

/-- The text that explains the options. -/
def helpText : String := String.join [
  "Explain and run beginner Python code\n",
  "\n",
  "Usage: pyexplain [OPTIONS] [FILE]\n",
  "\n",
  "Arguments:\n",
  "  [FILE]  Python file to explain and run. Uses a built-in example when omitted\n",
  "\n",
  "Options:\n",
  "      --serve            Serve Content-Length framed JSON requests on stdin/stdout\n",
  "      --python <PYTHON>  Interpreter command line, e.g. \"python3 -I\"\n",
  "      --config <CONFIG>  TOML config file\n",
  "  -h, --help             Print help\n",
  "  -V, --version          Print version\n"]

end Tutor
