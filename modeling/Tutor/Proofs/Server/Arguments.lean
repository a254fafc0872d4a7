import Tutor.Server.Session

/-!
Which arguments a request may have.

`TextArgument` and `RunArgument` say which values are arguments, and what they hold, without the
order in which a reader looks at them; the readers accept exactly these values. `respond_success`
puts them together: a request fails only if its command is unknown or its arguments are none of
these.
-/

namespace Tutor

open Json

/-! ## Values that are arguments -/

/-- One string: in the field of this name, or alone in an array. -/
inductive TextArgument (name : String) : Value → String → Prop
  | field {fields : List Field} {text : String} :
    valueOf? name fields = some (.string text) → TextArgument name (.object fields) text
  | item {text : String} : TextArgument name (.array [.string text]) text

/-- A program and answers for it: in the fields `source` and `stdin`, or in an array in this order.
The answers may be left out. -/
inductive RunArgument : Value → RunArguments → Prop
  | field {fields : List Field} {source : String} :
    valueOf? "source" fields = some (.string source) → valueOf? "stdin" fields = none →
    RunArgument (.object fields) ⟨source, []⟩
  | fields {fields : List Field} {source : String} {stdin : List String} :
    valueOf? "source" fields = some (.string source) →
    valueOf? "stdin" fields = some (.array (stdin.map .string)) →
    RunArgument (.object fields) ⟨source, stdin⟩
  | item {source : String} : RunArgument (.array [.string source]) ⟨source, []⟩
  | items {source : String} {stdin : List String} :
    RunArgument (.array [.string source, .array (stdin.map .string)]) ⟨source, stdin⟩

/-- The commands that requests may have. -/
def commands : List String :=
  ["initialize", "classifyLine", "explain", "run", "analyzeAndRun", "reset", "disconnect"]

/-- A command that takes arguments does not take this value. -/
def ArgumentsRefused (command : String) (v : Value) : Prop :=
  command = "classifyLine" ∧ (∀ text, ¬ TextArgument "text" v text) ∨
    command = "explain" ∧ (∀ source, ¬ TextArgument "source" v source) ∨
    (command = "run" ∨ command = "analyzeAndRun") ∧ ∀ run, ¬ RunArgument v run

/-! ## Readers -/

theorem bind_ok_iff {ε α β : Type} {x : Except ε α} {f : α → Except ε β} {b : β} :
    x >>= f = .ok b ↔ ∃ a, x = .ok a ∧ f a = .ok b := by
  cases x <;> simp [bind, Except.bind]

theorem optional_ok_iff {ε α β : Type} {value : Option α} {f : α → Except ε β} {b : Option β} :
    value.mapM f = .ok b ↔
      value = none ∧ b = none ∨ ∃ a c, value = some a ∧ f a = .ok c ∧ b = some c := by
  cases value with
  | none => simp [pure, Except.pure, eq_comm]
  | some a => cases read : f a <;> simp [Functor.map, Except.map, read, eq_comm]

theorem expectString_ok_iff {v : Value} {text : String} :
    expectString v = .ok text ↔ v = .string text := by
  cases v <;> simp [expectString]

theorem mapM_expectString_ok_iff {items : List Value} {texts : List String} :
    items.mapM expectString = .ok texts ↔ items = texts.map .string := by
  induction items generalizing texts with
  | nil => cases texts <;> simp [pure, Except.pure]
  | cons item items ih =>
    simp only [List.mapM_cons, bind_ok_iff, expectString_ok_iff, ih, pure, Except.pure,
      Except.ok.injEq]
    constructor
    · rintro ⟨text, rfl, others, rfl, rfl⟩
      rfl
    · intro same
      cases texts with
      | nil => cases same
      | cons text others =>
        cases same
        exact ⟨text, rfl, others, rfl, rfl⟩

theorem expectStrings_ok_iff {v : Value} {texts : List String} :
    expectStrings v = .ok texts ↔ v = .array (texts.map .string) := by
  cases v <;> simp [expectStrings, mapM_expectString_ok_iff]

theorem expectAtMost_ok_iff {count : Nat} {items : List Value} {done : Unit} :
    expectAtMost count items = .ok done ↔ items.length ≤ count := by
  rw [expectAtMost]
  split <;> simp <;> omega

/-- One string is read exactly from what is such an argument. -/
theorem readTextArgument_ok_iff (title : String) {name : String} {v : Value} {text : String} :
    readTextArgument title name v = .ok text ↔ TextArgument name v text := by
  constructor
  · intro read
    cases v with
    | object fields =>
      simp only [readTextArgument] at read
      split at read
      · rename_i found
        rw [expectString_ok_iff] at read
        exact .field (read ▸ found)
      · cases read
    | array items =>
      match items with
      | [] => cases read
      | v :: rest =>
        simp only [readTextArgument, bind_ok_iff, expectString_ok_iff,
          expectAtMost_ok_iff] at read
        obtain ⟨_, rfl, _, alone, same⟩ := read
        cases same
        obtain rfl : rest = [] := by simpa using alone
        exact .item
    | _ => cases read
  · rintro (found | _)
    · simp [readTextArgument, found, expectString]
    · rfl

/-- A program with its answers is read exactly from what is such an argument. -/
theorem RunArguments.read_ok_iff (title : String) {v : Value} {run : RunArguments} :
    RunArguments.read title v = .ok run ↔ RunArgument v run := by
  constructor
  · intro read
    cases v with
    | object fields =>
      simp only [RunArguments.read, bind_ok_iff, optional_ok_iff, expectString_ok_iff,
        expectStrings_ok_iff] at read
      obtain ⟨_, ⟨-, rfl⟩ | ⟨_, source, hasSource, rfl, rfl⟩, stdin?, hasStdin, read⟩ := read
      · cases read
      · cases read
        rcases hasStdin with ⟨absent, rfl⟩ | ⟨_, stdin, hasStdin, rfl, rfl⟩
        · exact .field hasSource absent
        · exact .fields hasSource hasStdin
    | array items =>
      match items with
      | [] => cases read
      | [v] =>
        simp only [RunArguments.read, bind_ok_iff, expectString_ok_iff] at read
        obtain ⟨source, rfl, stdin, none, _, -, same⟩ := read
        cases none
        cases same
        exact .item
      | v :: w :: rest =>
        simp only [RunArguments.read, bind_ok_iff, expectString_ok_iff, expectStrings_ok_iff,
          expectAtMost_ok_iff] at read
        obtain ⟨source, rfl, stdin, rfl, _, alone, same⟩ := read
        cases same
        obtain rfl : rest = [] := by simpa using alone
        exact .items
    | _ => cases read
  · rintro (⟨hasSource, absent⟩ | ⟨hasSource, hasStdin⟩ | _ | @⟨source, stdin⟩)
    · simp only [RunArguments.read, bind_ok_iff, optional_ok_iff, expectString_ok_iff]
      exact ⟨_, .inr ⟨_, _, hasSource, rfl, rfl⟩, none, .inl ⟨absent, rfl⟩, rfl⟩
    · simp only [RunArguments.read, bind_ok_iff, optional_ok_iff, expectString_ok_iff,
        expectStrings_ok_iff]
      exact ⟨_, .inr ⟨_, _, hasSource, rfl, rfl⟩, _, .inr ⟨_, _, hasStdin, rfl, rfl⟩, rfl⟩
    · rfl
    · simp only [RunArguments.read, bind_ok_iff, expectString_ok_iff, expectStrings_ok_iff]
      exact ⟨source, rfl, stdin, rfl, (), rfl, rfl⟩

/-! ## Replies -/

section Replies

variable {σ : Type} {interpreter : Interpreter σ} {c : Coordinator σ} {v : Value}

theorem replyClassifyLine_success :
    (replyClassifyLine c v).success = false ↔ ∀ text, ¬ TextArgument "text" v text := by
  simp only [← readTextArgument_ok_iff "struct ClassifyArgs", replyClassifyLine]
  split <;> rename_i read <;> simp [read, Reply.ok, Reply.badArguments, Reply.refused]

theorem replyExplain_success :
    (replyExplain c v).success = false ↔ ∀ source, ¬ TextArgument "source" v source := by
  simp only [← readTextArgument_ok_iff "struct ExplainArgs", replyExplain]
  split <;> rename_i read <;> simp [read, Reply.ok, Reply.badArguments, Reply.refused]

theorem replyToRun_success {body : RunArguments → RunResult → Value} :
    (replyToRun interpreter c v body).success = false ↔ ∀ run, ¬ RunArgument v run := by
  simp only [← RunArguments.read_ok_iff "struct RunArgs", replyToRun]
  split <;> rename_i read <;> simp [read, Reply.worked, Reply.badArguments, Reply.refused]

/-- A request fails exactly where its command is unknown or its arguments are refused, whatever
becomes of the interpreter and of the program. -/
theorem respond_success {command : String} {arguments : Option Value} :
    (respond interpreter c command arguments).success = false ↔
      command ∉ commands ∨ ArgumentsRefused command (arguments.getD .null) := by
  unfold respond
  split
  case h_1 => simp [replyInitialize, Reply.worked, commands, ArgumentsRefused]
  case h_2 => simp [replyClassifyLine_success, commands, ArgumentsRefused]
  case h_3 => simp [replyExplain_success, commands, ArgumentsRefused]
  case h_4 => simp [replyRun, replyToRun_success, commands, ArgumentsRefused]
  case h_5 => simp [replyAnalyzeAndRun, replyToRun_success, commands, ArgumentsRefused]
  case h_6 => simp [Reply.ok, commands, ArgumentsRefused]
  case h_7 => simp [Reply.ok, commands, ArgumentsRefused]
  case h_8 =>
    refine iff_of_true rfl (.inl ?_)
    simp only [commands, List.mem_cons, List.not_mem_nil, or_false, not_or]
    refine ⟨?_, ?_, ?_, ?_, ?_, ?_, ?_⟩ <;> assumption

end Replies

end Tutor
