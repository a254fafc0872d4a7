import Mathlib.Data.List.TakeDrop
import Tutor.Proofs.Run.Answers
import Tutor.Proofs.Text.Blank
import Tutor.Run.Result

/-!
One run from its chunks and answers to its result.

A run is a tree of what the program may do, and its answers choose one course through it. `Goes`
says which courses there are, chunk by chunk and question by question, and `Shows` says what is
shown of a run that wrote a given text and ended in a given way. Prepared answers lead down one
course (`Dialogue.play_prepared`), and what is shown is decided by the text that was written on it
(`Interpreter.runOnce_shows`).
-/

namespace Tutor

/-! ## Courses -/

/-- Something that happens between a program and its user. -/
inductive Exchange
  /-- The program wrote this. -/
  | said (chunk : String)
  /-- The program asked, perhaps with a prompt, and was answered. -/
  | answered (prompt : Option String) (answer : String)

namespace Exchange

/-- The chunk, if the program wrote one. -/
def chunk? : Exchange → Option String
  | said chunk => some chunk
  | answered .. => none

/-- The prompt, perhaps absent, if the program asked. -/
def prompt? : Exchange → Option (Option String)
  | said _ => none
  | answered prompt _ => some prompt

/-- The answer, if the program asked. -/
def answer? : Exchange → Option String
  | said _ => none
  | answered _ answer => some answer

end Exchange

/-- A course that a run may take to its result, under some answers. -/
inductive Dialogue.Goes {α : Type} : Dialogue α → List Exchange → α → Prop
  | done {result : α} : Goes (.done result) [] result
  | say {chunk : String} {next : Dialogue α} {course : List Exchange} {result : α} :
    next.Goes course result → Goes (.say chunk next) (.said chunk :: course) result
  | ask {prompt : Option String} {next : String → Dialogue α} {answer : String}
    {course : List Exchange} {result : α} :
    (next answer).Goes course result →
    Goes (.ask prompt next) (.answered prompt answer :: course) result

/-- The chunks, in the order in which the program wrote them. -/
def chunksOf (course : List Exchange) : List String := course.filterMap Exchange.chunk?

/-- All that the program wrote, as one text. -/
def textOf (course : List Exchange) : String := String.join (chunksOf course)

/-- The prompts, in the order in which the program asked. -/
def promptsOf (course : List Exchange) : List (Option String) :=
  course.filterMap Exchange.prompt?

/-- The answers, in the order in which the program asked. -/
def answersOf (course : List Exchange) : List String := course.filterMap Exchange.answer?

@[simp] theorem answersOf_said (chunk : String) (course : List Exchange) :
    answersOf (.said chunk :: course) = answersOf course := rfl

/-- Prepared answers lead down one course: each question takes the first answer that is left, or
the empty text. -/
theorem Dialogue.play_prepared {α : Type} (dialogue : Dialogue α) (input : PreparedAnswers) :
    let transcript := dialogue.play PreparedAnswers.answerer input
    ∃ course, dialogue.Goes course transcript.result ∧
      chunksOf course = transcript.chunks ∧
      answersOf course = input.answers.takeD (promptsOf course).length "" ∧
      transcript.answers.prompts = input.prompts ++ promptsOf course ∧
      transcript.answers.answers = input.answers.drop (promptsOf course).length := by
  induction dialogue generalizing input with
  | done result => exact ⟨[], .done, rfl, rfl, (List.append_nil _).symm, rfl⟩
  | say chunk next ih =>
    obtain ⟨course, goes, chunks, answers, prompts, left⟩ := ih input
    exact ⟨.said chunk :: course, .say goes, congrArg (chunk :: ·) chunks, answers, prompts, left⟩
  | ask prompt next ih =>
    -- The rest of the run starts from what this question has left of the answers.
    simp only [play, PreparedAnswers.answer_eq]
    obtain ⟨course, goes, chunks, answers, prompts, left⟩ :=
      ih (input.answers.headD "") ⟨input.answers.tail, input.prompts ++ [prompt]⟩
    refine ⟨.answered prompt (input.answers.headD "") :: course, .ask goes, chunks,
      congrArg (input.answers.headD "" :: ·) answers, ?_, ?_⟩
    · rw [prompts, List.append_assoc]
      rfl
    · rw [left, List.drop_tail]
      rfl

/-- The answers of a course lead down it. -/
theorem Dialogue.Goes.play_prepared {α : Type} {dialogue : Dialogue α} {course : List Exchange}
    {result : α} (goes : dialogue.Goes course result) (prompts : List (Option String)) :
    dialogue.play PreparedAnswers.answerer ⟨answersOf course, prompts⟩ =
      ⟨chunksOf course, result, ⟨[], prompts ++ promptsOf course⟩⟩ := by
  induction goes generalizing prompts with
  | done => rw [play, promptsOf, List.filterMap_nil, List.append_nil]; rfl
  | say _ ih => rw [play, answersOf_said, ih]; rfl
  | @ask prompt _ _ course _ _ ih =>
    have later := ih (prompts ++ [prompt])
    rw [List.append_assoc] at later
    exact later

/-! ## What is kept of a text -/

/-- What is kept of the text that a program wrote: the carriage returns go, and then the blanks at
the end. -/
structure Kept (text kept : String) : Prop where
  blanks : ∃ blanks, text.toList.filter (· != '\r') = kept.toList ++ blanks ∧
    ∀ c ∈ blanks, Text.isBlank c = true
  last : ∀ c, kept.toList.getLast? = some c → Text.isBlank c = false

theorem kept_iff {text kept : String} :
    Kept text kept ↔ kept = String.ofList (Text.trimEnd (text.toList.filter (· != '\r'))) := by
  rw [← String.toList_inj, String.toList_ofList, Text.trimEnd, eq_comm, Text.dropEndWhile_eq_iff]
  exact ⟨fun kept => ⟨kept.blanks, kept.last⟩, fun ends => ⟨ends.1, ends.2⟩⟩

/-- The chunks are captured as the text that they make up. -/
theorem kept_captureChunks (chunks : List String) :
    Kept (String.join chunks) (captureChunks chunks) := by
  have whole : (String.join chunks).toList.filter (· != '\r') = chunks.flatMap keptChunk := by
    rw [String.toList_join, List.filter_flatMap]
    rfl
  rw [kept_iff, captureChunks, whole]

theorem Kept.unique {text kept other : String} (one : Kept text kept) (two : Kept text other) :
    kept = other :=
  (kept_iff.1 one).trans (kept_iff.1 two).symm

/-! ## What is shown -/

/-- What is shown of a run that wrote this text and ended with this outcome. -/
inductive Shows (text : String) : Except RunError Unit → RunResult → Prop
  | success {kept : String} : Kept text kept → kept ≠ "" → Shows text (.ok ()) ⟨kept, none⟩
  | silentSuccess : Kept text "" → Shows text (.ok ()) ⟨"(no output)", none⟩
  | program {kept report : String} : Kept text kept → kept ≠ "" →
    Shows text (.error (.program report)) ⟨kept, some (.ofProgramError report)⟩
  | silentProgram {report : String} : Kept text "" →
    Shows text (.error (.program report))
      ⟨"(no output due to error)", some (.ofProgramError report)⟩
  /-- Nothing of the text is shown. -/
  | infrastructure {report : String} :
    Shows text (.error (.infrastructure report)) ⟨"", some (.unexpected report)⟩

namespace Shows

variable {text captured : String} {outcome : Except RunError Unit} {result : RunResult}

theorem ofOutcome (kept : Kept text captured) (outcome : Except RunError Unit) :
    Shows text outcome (.ofOutcome captured outcome) := by
  rcases outcome with (report | report) | done
  · rcases eq_or_ne captured "" with empty | filled
    · cases empty
      exact .silentProgram kept
    · rw [RunResult.ofOutcome, if_neg filled]
      exact .program kept filled
  · exact .infrastructure
  · rcases eq_or_ne captured "" with empty | filled
    · cases empty
      exact .silentSuccess kept
    · rw [RunResult.ofOutcome, if_neg filled]
      exact .success kept filled

/-- The text that was kept and the outcome leave one result to be shown. -/
theorem eq_ofOutcome (kept : Kept text captured) (shows : Shows text outcome result) :
    result = .ofOutcome captured outcome := by
  cases shows with
  | success same filled =>
    cases kept.unique same
    rw [RunResult.ofOutcome, if_neg filled]
  | silentSuccess empty =>
    cases kept.unique empty
    rfl
  | program same filled =>
    cases kept.unique same
    rw [RunResult.ofOutcome, if_neg filled]
  | silentProgram empty =>
    cases kept.unique empty
    rfl
  | infrastructure => rfl

theorem output_eq_empty_iff (shows : Shows text outcome result) :
    result.output = "" ↔ ∃ report, outcome = .error (.infrastructure report) := by
  cases shows with
  | success _ filled => simp [filled]
  | silentSuccess _ => simp
  | program _ filled => simp [filled]
  | silentProgram _ => simp
  | infrastructure => simp

end Shows

/-! ## One run -/

variable {σ : Type}

/-- Prepared answers lead an interpreter down one of its courses: the questions are answered one
after another by the answers, and by the empty text where these are used up, the prompts are written
down in order, and the answers that were not given are left. What is shown is decided by the text
that was written on the course, however it was cut into chunks, and by the outcome; and no output is
shown exactly where the outcome is a failure of the interpreter. -/
theorem Interpreter.runOnce_shows (interpreter : Interpreter σ) (source : String) (state : σ)
    (input : PreparedAnswers) :
    let (result, after, left) := interpreter.runOnce PreparedAnswers.answerer source state input
    ∃ course outcome, (interpreter.execute source state).Goes course (outcome, after) ∧
      (∀ shown, Shows (textOf course) outcome shown ↔ shown = result) ∧
      (result.output = "" ↔ ∃ report, outcome = .error (.infrastructure report)) ∧
      answersOf course = input.answers.takeD (promptsOf course).length "" ∧
      left.prompts = input.prompts ++ promptsOf course ∧
      left.answers = input.answers.drop (promptsOf course).length := by
  obtain ⟨course, goes, chunks, answers, prompts, left⟩ :=
    (interpreter.execute source state).play_prepared input
  have kept := kept_captureChunks (chunksOf course)
  rw [← textOf, chunks] at kept
  have shows := Shows.ofOutcome kept
    ((interpreter.execute source state).play PreparedAnswers.answerer input).result.1
  refine ⟨course, _, goes, ?_, shows.output_eq_empty_iff, answers, prompts, left⟩
  intro shown
  constructor
  · intro other
    exact other.eq_ofOutcome kept
  · intro same
    subst same
    exact shows

end Tutor
