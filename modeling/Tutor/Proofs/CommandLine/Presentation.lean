import Tutor.CommandLine.Run
import Tutor.Proofs.Failure.Category
import Tutor.Proofs.Json.Fields

/-!
A presentation of the answer to an analysis, made from the answer alone.

`Presentation.ofAnalysis?` goes through the JSON of the answer field by field and gives the texts to
print, each on a line of its own. For the answer about a source and the result of its run these are
`Presentation.linesOfRun` (`ofAnalysis?_body`), which is what `shownRun` prints of the two without
any JSON (`text_linesOfRun`).
-/

namespace Tutor

open Json

/-! ## Reading an answer -/

namespace Json.Value

/-- The value of a field of an object. -/
def field? (name : String) : Value → Option Value
  | object fields => valueOf? name fields
  | _ => none

/-- A natural number. -/
def asCount? : Value → Option Nat
  | number (.whole (.ofNat n)) => some n
  | _ => none

/-- The members of an array. -/
def asItems? : Value → Option (List Value)
  | array items => some items
  | _ => none

end Json.Value

namespace Presentation

/-- The text of a line: its number in four columns, and its text, or a note if there is none. -/
def numbered (number : Nat) (text : String) : String :=
  String.ofList ((Nat.toDigits 10 number).leftpad 4 ' ') ++ " | " ++
    if text = "" then "(blank)" else text

/-- The two lines of a record. -/
def ofRecord? (record : Value) : Option (List String) := do
  let number ← (← record.field? "lineNumber").asCount?
  let text ← asString? (← record.field? "text")
  let explanation ← asString? (← record.field? "explanation")
  return [numbered number text, "     └─ " ++ explanation]

/-- What stands in place of a failure. -/
def noFailure : String := "No errors detected."

/-- The message of a failure and its hints in order, or that there is no failure. -/
def ofFailure? : Value → Option (List String)
  | .null => some [noFailure]
  | failure => do
    let message ← asString? (← failure.field? "friendlyMessage")
    let hints ← (← (← failure.field? "hints").asItems?).mapM asString?
    return message :: hints.map ("  • " ++ ·)

/-- The records in order, the captured output, and the failure if there is one. -/
def ofAnalysis? (body : Value) : Option (List String) := do
  let records ← (← (← body.field? "records").asItems?).mapM ofRecord?
  let result ← body.field? "result"
  let output ← asString? (← result.field? "capturedOutput")
  let failure ← ofFailure? (← result.field? "failure")
  return "=== Line-by-line explanation ===" :: records.flatten ++
    ["", "=== Output ===", output, "", "=== Error / Hints ==="] ++ failure

/-- The failure that an answer holds, or `null` if it holds that there is none. -/
def failure? (body : Value) : Option Value := do (← body.field? "result").field? "failure"

/-- The texts printed one after another, each with a line feed behind it. -/
def text (lines : List String) : String := String.join (lines.map (· ++ "\n"))

theorem text_nil : text [] = "" := rfl

theorem text_cons (line : String) (lines : List String) :
    text (line :: lines) = line ++ "\n" ++ text lines := by
  rw [text, List.map_cons, String.join_cons, text]

theorem text_append (lines more : List String) :
    text (lines ++ more) = text lines ++ text more := by
  rw [text, List.map_append, String.join_append, text, text]

theorem text_flatten (pieces : List (List String)) :
    text pieces.flatten = String.join (pieces.map text) := by
  induction pieces with
  | nil => rfl
  | cons piece pieces ih =>
    rw [List.flatten_cons, text_append, ih, List.map_cons, String.join_cons]

/-! ## What the parts of an answer show -/

theorem mapM_map_some {α β γ : Type} {f : α → β} {read : β → Option γ} {shown : α → γ}
    (reads : ∀ a, read (f a) = some (shown a)) (items : List α) :
    (items.map f).mapM read = some (items.map shown) := by
  have same : read ∘ f = fun a => Pure.pure (shown a) := funext reads
  rw [List.mapM_map, same, List.mapM_pure]
  rfl

theorem field?_ofFields (name : String) (fields : List Field) :
    (Value.ofFields fields).field? name = valueOf? name fields.reverse :=
  valueOf?_sortFields name fields

/-- The lines of a record with these contents. -/
def linesOf (line : ExplainedLine) : List String :=
  [numbered line.number line.text, "     └─ " ++ line.explanation]

theorem ofRecord?_value (line : ExplainedLine) : ofRecord? line.value = some (linesOf line) := by
  have fields (name : String) : line.value.field? name =
      valueOf? name [("explanation", .string line.explanation), ("text", .string line.text),
        ("lineNumber", naturalValue line.number)] := field?_ofFields name _
  simp only [ofRecord?, fields, valueOf?_cons]
  rfl

theorem text_linesOf (line : ExplainedLine) : text (linesOf line) = line.shown := by
  have indented : "\n" ++ "     └─ " = "\n     └─ " := rfl
  simp only [linesOf, text_cons, numbered, List.leftpad, ExplainedLine.shown, ← indented,
    paddedNumber, String.append_assoc]
  rfl

/-- The lines of what has gone wrong, or of there being nothing. -/
def linesOfFailure : Option FailureInfo → List String
  | none => [noFailure]
  | some failure => failure.friendlyMessage :: failure.hints.map ("  • " ++ ·)

theorem ofFailure?_value (failure : Option FailureInfo) :
    ofFailure? (MessageContent.valueOrNull (failure.map FailureInfo.value)) =
      some (linesOfFailure failure) := by
  cases failure with
  | none => rfl
  | some failure =>
    have fields (name : String) : failure.value.field? name =
        valueOf? name [("hints", .array (failure.hints.map .string)),
          ("lineNumber", MessageContent.valueOrNull (failure.line.map naturalValue)),
          ("friendlyMessage", .string failure.friendlyMessage),
          ("category", .string failure.category.name),
          ("rawMessage", .string failure.rawMessage)] := field?_ofFields name _
    have texts (hint : String) : asString? (.string hint) = some (id hint) := rfl
    have hints := mapM_map_some texts failure.hints
    have presented : ofFailure? failure.value = (do
        let message ← asString? (← failure.value.field? "friendlyMessage")
        let hints ← (← (← failure.value.field? "hints").asItems?).mapM asString?
        return message :: hints.map ("  • " ++ ·)) := rfl
    rw [List.map_id] at hints
    rw [Option.map_some, MessageContent.valueOrNull, presented]
    simp only [fields, valueOf?_cons]
    simp only [String.reduceEq, if_true, if_false, Option.bind_eq_bind, Option.bind_some,
      Value.asItems?, asString?, hints]
    rfl

theorem text_linesOfFailure (failure : Option FailureInfo) :
    text (linesOfFailure failure) = shownFailure failure := by
  cases failure with
  | none => rfl
  | some failure =>
    rw [linesOfFailure, text_cons, shownFailure, text, List.map_map]
    rfl

/-- All lines that are printed about a source and the result of its run. -/
def linesOfRun (source : String) (result : RunResult) : List String :=
  "=== Line-by-line explanation ===" :: ((explainSource source).map linesOf).flatten ++
    ["", "=== Output ===", result.output, "", "=== Error / Hints ==="] ++
    linesOfFailure result.failure

/-- The answer to an analysis of this source with this result. -/
def body (source : String) (result : RunResult) : Value :=
  .object [("records", recordsValue source), ("result", result.value)]

theorem field?_records (source : String) (result : RunResult) :
    (body source result).field? "records" = some (recordsValue source) := rfl

theorem field?_result (source : String) (result : RunResult) :
    (body source result).field? "result" = some result.value := by
  change valueOf? "result" [("records", recordsValue source), ("result", result.value)] = _
  simp [valueOf?_cons]

theorem field?_value (name : String) (result : RunResult) :
    result.value.field? name =
      valueOf? name [("failure", MessageContent.valueOrNull (result.failure.map FailureInfo.value)),
        ("capturedOutput", .string result.output)] := field?_ofFields name _

theorem field?_output (result : RunResult) :
    result.value.field? "capturedOutput" = some (.string result.output) := by
  simp [field?_value, valueOf?_cons]

theorem field?_failure (result : RunResult) :
    result.value.field? "failure" =
      some (MessageContent.valueOrNull (result.failure.map FailureInfo.value)) := by
  simp [field?_value, valueOf?_cons]

theorem ofAnalysis?_body (source : String) (result : RunResult) :
    ofAnalysis? (body source result) = some (linesOfRun source result) := by
  have records := mapM_map_some ofRecord?_value (explainSource source)
  simp only [ofAnalysis?, field?_records, field?_result, field?_output, field?_failure,
    Option.bind_eq_bind, Option.bind_some, Value.asItems?, recordsValue, records, asString?,
    ofFailure?_value]
  rfl

theorem failure?_body_eq_null_iff (source : String) (result : RunResult) :
    failure? (body source result) = some .null ↔ result.failure = none := by
  have held : failure? (body source result) =
      some (MessageContent.valueOrNull (result.failure.map FailureInfo.value)) := by
    rw [failure?, field?_result, Option.bind_eq_bind, Option.bind_some, field?_failure]
  rw [held]
  cases result.failure with
  | none => exact iff_of_true rfl rfl
  | some failure => exact iff_of_false nofun nofun

theorem text_linesOfRun (source : String) (result : RunResult) :
    text (linesOfRun source result) = shownRun source result := by
  have records : text ((explainSource source).map linesOf).flatten =
      String.join ((explainSource source).map ExplainedLine.shown) := by
    simp only [text_flatten, List.map_map, Function.comp_def, text_linesOf]
  have opening : "=== Line-by-line explanation ===\n" =
      "=== Line-by-line explanation ===" ++ "\n" := by simp only [String.reduceAppend]
  have output : "\n=== Output ===\n" = "" ++ "\n" ++ "=== Output ===" ++ "\n" := by
    simp only [String.reduceAppend]
  have failure : "\n=== Error / Hints ===\n" = "" ++ "\n" ++ "=== Error / Hints ===" ++ "\n" := by
    simp only [String.reduceAppend]
  rw [linesOfRun, text_append, text_append, text_linesOfFailure, text_cons, records]
  -- Only the name is opened here: making its equation would take all the strings apart.
  delta shownRun
  simp only [opening, output, failure, text_cons, text_nil, String.append_assoc,
    String.empty_append]

/-! ## The last line -/

/-- A hint stands behind a mark. -/
theorem hint_ne_noFailure (hint : String) : "  • " ++ hint ≠ noFailure := by
  intro same
  have first := congrArg (fun s : String => s.toList.head?) same
  rw [String.toList_append] at first
  cases first

theorem getLast?_linesOfFailure_iff {failure : Option FailureInfo}
    (said : ∀ info, failure = some info → info.friendlyMessage ≠ noFailure) :
    (linesOfFailure failure).getLast? = some noFailure ↔ failure = none := by
  cases failure with
  | none => exact iff_of_true rfl rfl
  | some info =>
    refine iff_of_false (fun last => ?_) nofun
    rcases List.mem_cons.1 (List.mem_of_getLast? last) with message | hint
    · exact said info rfl message.symm
    · obtain ⟨hint, -, same⟩ := List.mem_map.1 hint
      exact hint_ne_noFailure hint same

theorem getLast?_linesOfRun (source : String) (result : RunResult) :
    (linesOfRun source result).getLast? = (linesOfFailure result.failure).getLast? := by
  have some : linesOfFailure result.failure ≠ [] := by
    cases result.failure <;> exact List.cons_ne_nil _ _
  rw [linesOfRun, List.getLast?_append_of_ne_nil _ some]

end Presentation

end Tutor
