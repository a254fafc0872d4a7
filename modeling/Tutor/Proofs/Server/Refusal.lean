import Tutor.Proofs.Run.History
import Tutor.Proofs.Server.Arguments

/-!
Requests whose arguments are refused.

Four commands take arguments. Each of them reads its arguments, and then either refuses the request
or goes to work on what it has read (`ArgumentCommand.respond_eq`); there is no other way from the
value to the answer. So two values that hold the same arguments are answered alike, and a refusal is
one response that leaves no trace, whatever the server was doing before (`respond_arguments`).
-/

namespace Tutor

open Json

variable {σ : Type}

/-! ## Fields of an object -/

theorem readTextArgument_object (title : String) {name : String} {fields others : List Field}
    (same : valueOf? name fields = valueOf? name others) :
    readTextArgument title name (.object fields) =
      readTextArgument title name (.object others) := by
  simp only [readTextArgument, same]

theorem RunArguments.read_object (title : String) {fields others : List Field}
    (sameSource : valueOf? "source" fields = valueOf? "source" others)
    (sameStdin : valueOf? "stdin" fields = valueOf? "stdin" others) :
    RunArguments.read title (.object fields) = RunArguments.read title (.object others) := by
  simp only [RunArguments.read, sameSource, sameStdin]

/-! ## Commands -/

/-- A command that takes arguments. -/
inductive ArgumentCommand
  | classifyLine
  | explain
  | run
  | analyzeAndRun

namespace ArgumentCommand

/-- The name of the command in requests. -/
def name : ArgumentCommand → String
  | classifyLine => "classifyLine"
  | explain => "explain"
  | run => "run"
  | analyzeAndRun => "analyzeAndRun"

/-- The fields that the command looks at in an object. -/
def fieldNames : ArgumentCommand → List String
  | classifyLine => ["text"]
  | explain => ["source"]
  | run | analyzeAndRun => ["source", "stdin"]

/-- What the arguments of the command are. -/
def Arguments : ArgumentCommand → Type
  | classifyLine | explain => String
  | run | analyzeAndRun => RunArguments

/-- A value holds arguments for the command. -/
def Accepts : (command : ArgumentCommand) → Value → command.Arguments → Prop
  | classifyLine, v, text => TextArgument "text" v text
  | explain, v, source => TextArgument "source" v source
  | run, v, arguments | analyzeAndRun, v, arguments => RunArgument v arguments

/-- Reads the arguments of the command. -/
def read : (command : ArgumentCommand) → Value → Except ArgumentError command.Arguments
  | classifyLine, v => readTextArgument "struct ClassifyArgs" "text" v
  | explain, v => readTextArgument "struct ExplainArgs" "source" v
  | run, v | analyzeAndRun, v => RunArguments.read "struct RunArgs" v

theorem read_ok_iff {command : ArgumentCommand} {v : Value} {arguments : command.Arguments} :
    command.read v = .ok arguments ↔ command.Accepts v arguments := by
  cases command with
  | classifyLine => exact readTextArgument_ok_iff _
  | explain => exact readTextArgument_ok_iff _
  | run => exact RunArguments.read_ok_iff _
  | analyzeAndRun => exact RunArguments.read_ok_iff _

theorem read_error_iff {command : ArgumentCommand} {v : Value} :
    (∃ e, command.read v = .error e) ↔ ∀ arguments, ¬ command.Accepts v arguments := by
  simp only [← read_ok_iff]
  cases command.read v <;> simp

/-- A reader looks at no other fields of an object than its own. -/
theorem read_object {command : ArgumentCommand} {fields others : List Field}
    (same : ∀ name ∈ command.fieldNames, valueOf? name fields = valueOf? name others) :
    command.read (.object fields) = command.read (.object others) := by
  cases command with
  | classifyLine =>
    have text := same "text" List.mem_cons_self
    exact readTextArgument_object "struct ClassifyArgs" text
  | explain =>
    have source := same "source" List.mem_cons_self
    exact readTextArgument_object "struct ExplainArgs" source
  | run =>
    have source := same "source" List.mem_cons_self
    have stdin := same "stdin" (List.mem_cons_of_mem _ List.mem_cons_self)
    exact RunArguments.read_object "struct RunArgs" source stdin
  | analyzeAndRun =>
    have source := same "source" List.mem_cons_self
    have stdin := same "stdin" (List.mem_cons_of_mem _ List.mem_cons_self)
    exact RunArguments.read_object "struct RunArgs" source stdin

section Replies

variable (interpreter : Interpreter σ) (c : Coordinator σ)

/-- The result of a run with these arguments, and the coordinator behind it. -/
def resultOf (arguments : RunArguments) : RunResult × Coordinator σ :=
  let (result, c, _) :=
    c.run interpreter PreparedAnswers.answerer arguments.source (.ofList arguments.stdin)
  (result, c)

/-- The reply to the command with these arguments. -/
def reply : (command : ArgumentCommand) → command.Arguments → Reply σ
  | classifyLine, text =>
    .ok c (some (.ofFields [
      ("kind", .string (LineKind.ofLine text).name),
      ("explanation", .string (LineKind.ofLine text).explanation)]))
  | explain, source => .ok c (some (.ofFields [("records", recordsValue source)]))
  | run, arguments =>
    let (result, c) := resultOf interpreter c arguments
    .worked c result.value
  | analyzeAndRun, arguments =>
    let (result, c) := resultOf interpreter c arguments
    .worked c (.ofFields [
      ("records", recordsValue arguments.source), ("result", result.value)])

/-- A request is refused or replied to, by what is read from its arguments alone. -/
theorem respond_eq (command : ArgumentCommand) (arguments : Option Value) :
    respond interpreter c command.name arguments =
      match command.read (arguments.getD .null) with
      | .error e => .badArguments c e
      | .ok read => command.reply interpreter c read := by
  generalize same : arguments.getD .null = v
  cases command with
  | classifyLine =>
    simp only [respond, name, replyClassifyLine, read, same]
    cases readTextArgument "struct ClassifyArgs" "text" v <;> rfl
  | explain =>
    simp only [respond, name, replyExplain, read, same]
    cases readTextArgument "struct ExplainArgs" "source" v <;> rfl
  | run =>
    simp only [respond, name, replyRun, replyToRun, read, same]
    cases RunArguments.read "struct RunArgs" v <;> rfl
  | analyzeAndRun =>
    simp only [respond, name, replyAnalyzeAndRun, replyToRun, read, same]
    cases RunArguments.read "struct RunArgs" v <;> rfl

theorem reply_success (command : ArgumentCommand) (arguments : command.Arguments) :
    (command.reply interpreter c arguments).success = true := by
  cases command <;> rfl

theorem respond_of_accepts {command : ArgumentCommand} {arguments : Option Value}
    {read : command.Arguments} (accepts : command.Accepts (arguments.getD .null) read) :
    respond interpreter c command.name arguments = command.reply interpreter c read := by
  rw [respond_eq, read_ok_iff.mpr accepts]

theorem respond_of_refused {command : ArgumentCommand} {arguments : Option Value}
    (refused : ∀ read, ¬ command.Accepts (arguments.getD .null) read) :
    ∃ fault, respond interpreter c command.name arguments = .badArguments c fault := by
  obtain ⟨fault, outcome⟩ := read_error_iff.mpr refused
  exact ⟨fault, by rw [respond_eq, outcome]⟩

/-- No command that takes arguments ends the session. -/
theorem name_ne_disconnect (command : ArgumentCommand) :
    (command.name != "disconnect") = true := by
  cases command <;> rfl

end Replies

end ArgumentCommand

/-- Whether a request is accepted is a matter of its arguments alone: an object whose fields hold
them, other fields aside, or an array of them in order. Values with the same arguments are answered
alike, whatever their form. Any other value, and none, is refused: one response without a body is
written, no event goes before it, and neither the coordinator nor its interpreter, whose calls are
written down here, has noticed anything. -/
theorem Server.respond_arguments (interpreter : Interpreter σ)
    (server : Server (σ × List Occurrence)) (command : ArgumentCommand) (seq : Nat)
    (type : String) (arguments : Option Value) :
    let v := arguments.getD .null
    let reply (arguments : Option Value) :=
      respond interpreter.recorded server.coordinator command.name arguments
    ((reply arguments).success = true ↔ ∃ read, command.Accepts v read) ∧
      (∀ read w, command.Accepts v read → command.Accepts w read →
        reply (some w) = reply arguments) ∧
      (∀ fields others : List Field,
        (∀ name ∈ command.fieldNames, valueOf? name fields = valueOf? name others) →
        reply (some (.object fields)) = reply (some (.object others))) ∧
      ((∀ read, ¬ command.Accepts v read) → ∃ fault : ArgumentError,
        server.handle interpreter.recorded none ⟨seq, type, .request command.name arguments⟩ =
          ⟨[⟨server.lastSeq + 1, "response", .response seq false command.name
              (some ("invalid arguments: " ++ fault.message)) none⟩],
            ⟨server.lastSeq + 1, server.coordinator⟩, some none, true⟩) := by
  intro v reply
  refine ⟨?_, ?_, ?_, ?_⟩
  · by_cases accepted : ∃ read, command.Accepts v read
    · obtain ⟨read, accepts⟩ := accepted
      simp only [reply, command.respond_of_accepts _ _ accepts]
      exact iff_of_true (command.reply_success _ _ read) ⟨read, accepts⟩
    · obtain ⟨fault, refusal⟩ := command.respond_of_refused interpreter.recorded
        server.coordinator (not_exists.mp accepted)
      simp only [reply, refusal]
      exact iff_of_false Bool.false_ne_true accepted
  · intro read w first second
    simp only [reply, command.respond_of_accepts _ _ first]
    exact command.respond_of_accepts _ _ second
  · intro fields others same
    simp only [reply, command.respond_eq, Option.getD_some, command.read_object same]
  · intro refused
    obtain ⟨fault, refusal⟩ := command.respond_of_refused interpreter.recorded
      server.coordinator refused
    refine ⟨fault, ?_⟩
    simp only [Server.handle, refusal, command.name_ne_disconnect]
    rfl

end Tutor
