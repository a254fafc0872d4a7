/-!
Programs that run beside this one: how they are started, how they behave, and how they end.

A child is a tree: what it writes next may depend on the lines it has read. What the outside
world does, from a missing program to a child's every byte, is a `Host`; it is not decided here.
-/

namespace Tutor

/-- Why the operating system did not do something; most reasons have a number. -/
structure OsError where
  text : String
  code : Option Nat
  deriving DecidableEq, Repr

namespace OsError

/-- The text of the reason, with its number. -/
def message (e : OsError) : String :=
  match e.code with
  | some code => e.text ++ " (os error " ++ String.ofList (Nat.toDigits 10 code) ++ ")"
  | none => e.text

/-- There is no file of this name. -/
def noSuchFile : OsError := ⟨"No such file or directory", some 2⟩

/-- The file may not be used in this way. -/
def permissionDenied : OsError := ⟨"Permission denied", some 13⟩

/-- Nobody reads at the other end of a pipe. -/
def brokenPipe : OsError := ⟨"Broken pipe", some 32⟩

/-- The system does not do this at all. -/
def notImplemented : OsError := ⟨"Function not implemented", some 38⟩

/-- A command cannot hold the character that ends texts for the system. -/
def nulByte : OsError := ⟨"nul byte found in provided data", none⟩

end OsError

/-- How a child ended. -/
inductive ExitStatus
  | exited (code : Nat)
  /-- By a signal, perhaps leaving a dump of its memory. -/
  | killed (signal : Nat) (dumped : Bool)
  deriving DecidableEq, Repr

namespace ExitStatus

/-- The names of the signals from number 1 on. -/
def signalNames : List String := [
  "SIGHUP", "SIGINT", "SIGQUIT", "SIGILL", "SIGTRAP", "SIGABRT", "SIGBUS", "SIGFPE", "SIGKILL",
  "SIGUSR1", "SIGSEGV", "SIGUSR2", "SIGPIPE", "SIGALRM", "SIGTERM", "SIGSTKFLT", "SIGCHLD",
  "SIGCONT", "SIGSTOP", "SIGTSTP", "SIGTTIN", "SIGTTOU", "SIGURG", "SIGXCPU", "SIGXFSZ",
  "SIGVTALRM", "SIGPROF", "SIGWINCH", "SIGIO", "SIGPWR", "SIGSYS"]

/-- The name of a signal, if it has one. -/
def signalName? : Nat → Option String
  | 0 => none
  | n + 1 => signalNames[n]?

/-- Whether the child reported success. -/
def isSuccess (status : ExitStatus) : Bool := status == exited 0

/-- The text of the status. -/
def message : ExitStatus → String
  | exited code => "exit status: " ++ String.ofList (Nat.toDigits 10 code)
  | killed signal dumped =>
    "signal: " ++ String.ofList (Nat.toDigits 10 signal) ++
      (match signalName? signal with
        | some name => " (" ++ name ++ ")"
        | none => "") ++
      (if dumped then " (core dumped)" else "")

end ExitStatus

/-- What a child does from some moment on. -/
inductive Child
  /-- It ends, having written these bytes to its error output in all. -/
  | exits (status : ExitStatus) (errors : List UInt8)
  /-- It writes to its output. -/
  | writes (bytes : List UInt8) (next : Child)
  /-- It takes a line from its input, with the line feed; none at the end of the input, or where it
  has closed it. -/
  | reads (next : Option (List UInt8) → Child)
  /-- It closes its input, and takes nothing of what is sent from then on. -/
  | closes (next : Child)

/-- A program to start, and the arguments that always come first. -/
structure Command where
  program : String
  arguments : List String
  deriving DecidableEq, Repr

/-- The command with these words, if there is any word. -/
def Command.ofWords? : List String → Option Command
  | [] => none
  | program :: arguments => some ⟨program, arguments⟩

/-- What a child left behind that had nothing to read. -/
structure ProbeReport where
  output : List UInt8
  errors : List UInt8
  status : ExitStatus

/-- The world that children live in; what has happened there so far is a state in `ω`. Each
operation names a command and the arguments that follow its own. -/
structure Host (ω : Type) where
  /-- Runs a command without input to its end. -/
  probe : Command → List String → ω → Except OsError ProbeReport × ω
  /-- Starts a command to talk with it. -/
  start : Command → List String → ω → Except OsError Child × ω

end Tutor
