import Tutor.Explain.Record
import Tutor.Protocol.Frame
import Tutor.Run.Answers
import Tutor.Run.Coordinator
import Tutor.Server.Arguments

/-!
A session of the server: requests on a stream of frames, each answered by one response, with the
changes of the coordinator's status written as events before it.

`respond` says what a request leads to; `Session.serve` reads requests until the stream is over,
a client disconnects, or a message cannot be written.
-/

namespace Tutor

open Json

/-! ## Bodies of messages -/

/-- The program that is shown before anything has been typed. -/
def exampleSource : String := "# Example:\nfor i in range(3):\n    print(i)\n"

/-- An optional string as JSON. -/
def stringOrNull (s : Option String) : Value := MessageContent.valueOrNull (s.map .string)

/-- A natural number as JSON. -/
def naturalValue (n : Nat) : Value := .number (.whole n)

/-- An explained line as JSON. -/
def ExplainedLine.value (line : ExplainedLine) : Value := .ofFields [
  ("lineNumber", naturalValue line.number), ("text", .string line.text),
  ("explanation", .string line.explanation)]

/-- Explained lines as JSON. -/
def recordsValue (source : String) : Value :=
  .array ((explainSource source).map ExplainedLine.value)

/-- What is shown about a failure, as JSON. -/
def FailureInfo.value (failure : FailureInfo) : Value := .ofFields [
  ("rawMessage", .string failure.rawMessage), ("category", .string failure.category.name),
  ("friendlyMessage", .string failure.friendlyMessage),
  ("lineNumber", MessageContent.valueOrNull (failure.line.map naturalValue)),
  ("hints", .array (failure.hints.map .string))]

/-- The result of a run as JSON. -/
def RunResult.value (result : RunResult) : Value := .ofFields [
  ("capturedOutput", .string result.output),
  ("failure", MessageContent.valueOrNull (result.failure.map FailureInfo.value))]

/-- A change of the status as an event. -/
def Status.event (status : Status) : MessageContent :=
  .event "status" (some (.ofFields [
    ("status", .string status.name), ("message", .string status.message)]))

/-! ## Answering a request -/

/-- What a request leads to: the status events and the response, and the coordinator after it. -/
structure Reply (σ : Type) where
  events : List Status
  success : Bool
  message : Option String
  body : Option Value
  coordinator : Coordinator σ

namespace Reply

variable {σ : Type}

/-- A success with this body. -/
def ok (c : Coordinator σ) (body : Option Value) : Reply σ := ⟨[], true, none, body, c⟩

/-- A refusal with this text. -/
def refused (c : Coordinator σ) (message : String) : Reply σ :=
  ⟨[], false, some message, none, c⟩

/-- A refusal of arguments. -/
def badArguments (c : Coordinator σ) (e : ArgumentError) : Reply σ :=
  refused c ("invalid arguments: " ++ e.message)

/-- A success after work of the coordinator: what it has published goes before the response. -/
def worked (c : Coordinator σ) (body : Value) : Reply σ :=
  ⟨c.takeStatuses.1, true, none, some body, c.takeStatuses.2⟩

/-- The contents of the messages of a reply to a request, in the order in which they are written. -/
def contents (reply : Reply σ) (requestSeq : Nat) (command : String) : List MessageContent :=
  reply.events.map Status.event ++
    [.response requestSeq reply.success command reply.message reply.body]

end Reply

section Requests

variable {σ : Type} (interpreter : Interpreter σ) (c : Coordinator σ)

/-- Boots the interpreter. A boot that fails is a success that tells of the failure. -/
def replyInitialize : Reply σ :=
  let (ready, c) := c.boot interpreter
  .worked c (.ofFields [
    ("ready", .bool ready), ("status", .string c.status.name),
    ("message", .string c.status.message), ("error", stringOrNull c.bootError)])

/-- Tells the kind of a line. -/
def replyClassifyLine (arguments : Value) : Reply σ :=
  match readTextArgument "struct ClassifyArgs" "text" arguments with
  | .error e => .badArguments c e
  | .ok text =>
    let kind := LineKind.ofLine text
    .ok c (some (.ofFields [
      ("kind", .string kind.name), ("explanation", .string kind.explanation)]))

/-- Explains a program line by line. -/
def replyExplain (arguments : Value) : Reply σ :=
  match readTextArgument "struct ExplainArgs" "source" arguments with
  | .error e => .badArguments c e
  | .ok source => .ok c (some (.ofFields [("records", recordsValue source)]))

/-- Runs a program with the answers that are given, and makes the body from the result. -/
def replyToRun (arguments : Value) (body : RunArguments → RunResult → Value) : Reply σ :=
  match RunArguments.read "struct RunArgs" arguments with
  | .error e => .badArguments c e
  | .ok run =>
    let (result, c, _) :=
      c.run interpreter PreparedAnswers.answerer run.source (.ofList run.stdin)
    .worked c (body run result)

/-- Runs a program. -/
def replyRun (arguments : Value) : Reply σ :=
  replyToRun interpreter c arguments fun _ result => result.value

/-- Explains a program and runs it. -/
def replyAnalyzeAndRun (arguments : Value) : Reply σ :=
  replyToRun interpreter c arguments fun run result => .ofFields [
    ("records", recordsValue run.source), ("result", result.value)]

/-- The reply to a request. Arguments that are absent count as `null`. -/
def respond (command : String) (arguments : Option Value) : Reply σ :=
  let value := arguments.getD .null
  match command with
  | "initialize" => replyInitialize interpreter c
  | "classifyLine" => replyClassifyLine c value
  | "explain" => replyExplain c value
  | "run" => replyRun interpreter c value
  | "analyzeAndRun" => replyAnalyzeAndRun interpreter c value
  | "reset" => .ok c (some (.ofFields [("source", .string exampleSource)]))
  | "disconnect" => .ok c none
  | other => .refused c ("unknown command `" ++ other ++ "`")

end Requests

/-! ## The session -/

/-- The type of a message with this content. -/
def MessageContent.typeName : MessageContent → String
  | response .. => "response"
  | request .. => "request"
  | event .. => "event"

/-- A writer that takes this many messages, or all. -/
abbrev Writer := Option Nat

/-- The writer behind one more message; none if it has no room for it. -/
def Writer.next? : Writer → Option Writer
  | none => some none
  | some 0 => none
  | some (room + 1) => some (some room)

/-- What came of messages that were to be sent. -/
structure Sending where
  /-- The messages that were written, in order. -/
  written : List Message
  /-- The last number that was given to a message. -/
  lastSeq : Nat
  /-- The writer behind them; none if it has refused one. -/
  writer : Option Writer

/-- Sends messages with these contents one by one, numbered behind `last`. Nothing is sent behind a
message that the writer refuses, but that one has taken a number. -/
def sendAll (last : Nat) (writer : Writer) : List MessageContent → Sending
  | [] => ⟨[], last, some writer⟩
  | content :: contents =>
    match writer.next? with
    | none => ⟨[], last + 1, none⟩
    | some writer =>
      let later := sendAll (last + 1) writer contents
      { later with written := ⟨last + 1, content.typeName, content⟩ :: later.written }

/-- The state of a server: the number of the last message, and the coordinator. -/
structure Server (σ : Type) where
  lastSeq : Nat
  coordinator : Coordinator σ

namespace Server

variable {σ : Type}

/-- A server whose interpreter was never booted. -/
def new (interpreter : σ) : Server σ := ⟨0, .new interpreter (.waiting [])⟩

/-- What a message leads to. -/
structure Handled (σ : Type) where
  /-- The messages that were written. -/
  outgoing : List Message
  server : Server σ
  /-- The writer behind them; none if it has refused one, which ends the session. -/
  writer : Option Writer
  /-- Whether the session goes on, unless the writer has ended it. -/
  goesOn : Bool

/-- Handles a message. Only requests are answered, and only a disconnect ends the session. -/
def handle (interpreter : Interpreter σ) (server : Server σ) (writer : Writer) (m : Message) :
    Handled σ :=
  match m.content with
  | .request command arguments =>
    let reply := respond interpreter server.coordinator command arguments
    let sending := sendAll server.lastSeq writer (reply.contents m.seq command)
    ⟨sending.written, ⟨sending.lastSeq, reply.coordinator⟩, sending.writer,
      command != "disconnect"⟩
  | _ => ⟨[], server, some writer, true⟩

end Server

/-- How a session ended. -/
inductive SessionEnd
  /-- By a disconnect, or with the stream between two messages. -/
  | ok
  /-- With the stream within a message. -/
  | cutShort
  /-- With a message that could not be written. -/
  | writerClosed
  deriving DecidableEq, Repr

/-- What a session did. -/
structure Session (σ : Type) where
  /-- The messages that were written, in order. -/
  written : List Message
  ending : SessionEnd
  /-- The bytes of the stream that were not consumed. -/
  unread : List UInt8
  server : Server σ

namespace Session

variable {σ : Type}

/-- Puts messages before those of a session. -/
def prepend (messages : List Message) (session : Session σ) : Session σ :=
  { session with written := messages ++ session.written }

/-- Serves the requests on a stream. Faults of frames are passed over. -/
def serve (interpreter : Interpreter σ) (server : Server σ) (writer : Writer)
    (bytes : List UInt8) : Session σ :=
  let rest := (readMessage bytes).2
  have shorter := @readMessage_length_lt bytes
  match (readMessage bytes).1, shorter with
  | .ended, _ => ⟨[], .ok, rest, server⟩
  | .cutShort, _ => ⟨[], .cutShort, rest, server⟩
  | .fault _, shorter =>
    have := shorter rfl
    serve interpreter server writer rest
  | .message m, shorter =>
    have := shorter rfl
    let handled := server.handle interpreter writer m
    match handled.writer with
    | none => ⟨handled.outgoing, .writerClosed, rest, handled.server⟩
    | some writer =>
      if handled.goesOn then
        (serve interpreter handled.server writer rest).prepend handled.outgoing
      else ⟨handled.outgoing, .ok, rest, handled.server⟩
termination_by bytes.length

end Session

end Tutor
