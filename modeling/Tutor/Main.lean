import Tutor.CommandLine.Run

/-!
The command line program.

No child can be started from here, so every interpreter is reported as one that cannot be started;
explaining and serving do not depend on it.
-/

namespace Tutor

/-- A host on which no program can be started. -/
def childlessHost : Host Unit where
  probe _ _ _ := (.error .notImplemented, ())
  start _ _ _ := (.error .notImplemented, ())

/-- Reads a file, if it can be read. -/
def readContent (name : String) : IO FileContent := do
  try
    return some (← IO.FS.readBinFile name).toList
  catch _ =>
    return none

/-- Takes bytes off the standard input up to the end of a line or of the stream. -/
partial def readLineBytes (stdin : IO.FS.Stream) (before : List UInt8) : IO (List UInt8) := do
  match (← stdin.read 1).toList with
  | byte :: _ =>
    if byte = 10 then return (byte :: before).reverse else readLineBytes stdin (byte :: before)
  | [] => return before.reverse

/-- Takes bytes off the standard input up to the end of a frame or of the stream. -/
partial def readFrameBytes (stdin : IO.FS.Stream) (before : List UInt8) : IO (List UInt8) := do
  let line ← readLineBytes stdin []
  let bytes := before ++ line
  if line = [] then return bytes
  else
    match (readHeader false 0 bytes).1 with
    | .ended => readFrameBytes stdin bytes
    | .notText => return bytes
    | .complete length =>
      if maxLength < length then return bytes
      else return bytes ++ (← stdin.read length.toUSize).toList

/-- Writes bytes at once. -/
def writeBytes (stdout : IO.FS.Stream) (bytes : List UInt8) : IO Unit := do
  stdout.write ⟨bytes.toArray⟩
  stdout.flush

/-- Serves frame by frame, so that a client has each answer before it sends the next request. -/
partial def serveStreams (interpreter : Interpreter Unit) (stdin stdout : IO.FS.Stream)
    (server : Server Unit) : IO UInt32 := do
  match (readMessage (← readFrameBytes stdin [])).1 with
  | .ended => return 0
  | .cutShort => return 1
  | .fault _ => serveStreams interpreter stdin stdout server
  | .message m =>
    let handled := server.handle interpreter none m
    writeBytes stdout (handled.outgoing.flatMap Message.frame)
    if handled.goesOn then serveStreams interpreter stdin stdout handled.server else return 0

/-- Ends with an outcome that is known. -/
def conclude (outcome : Outcome) : IO UInt32 := do
  writeBytes (← IO.getStdout) outcome.stdout
  unless outcome.complaint = "" do IO.eprintln outcome.complaint
  return outcome.exitCode.toUInt32

/-- Reads what the options name, and carries out the task that they set. -/
def runOptions (options : Options) : IO UInt32 := do
  let config ← options.config.mapM readContent
  let file ← options.file.mapM readContent
  let surroundings : Surroundings := {
    environment := ⟨← IO.getEnv "PYEXPLAIN_PYTHON", ← IO.getEnv "PYEXPLAIN_LOG"⟩
    files := fun name => if options.config = some name then config.join else file.join
    stdin := [] }
  match taskOf options surroundings with
  | .error outcome => conclude outcome
  | .ok (.present command source) =>
    conclude (runInteractive childlessHost command () source []).1
  | .ok (.serve command) =>
    serveStreams (command.interpreter childlessHost) (← IO.getStdin) (← IO.getStdout) (.new ())

end Tutor

/-- Runs the program with the arguments of the command line. -/
def main (arguments : List String) : IO UInt32 :=
  match Tutor.Options.read arguments with
  | .error stop => Tutor.conclude (.ofOptionsEnd stop)
  | .ok options => Tutor.runOptions options
