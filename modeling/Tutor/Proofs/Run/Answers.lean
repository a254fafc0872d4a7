import Mathlib.Data.List.TakeDrop
import Tutor.Proofs.Text.Blank
import Tutor.Proofs.Text.Lines
import Tutor.Run.Answers

/-!
Answers that were prepared, and the same answers typed one on each line.

`Typed` says which bytes hold the answers. A line that is taken off them gives the first answer and
leaves the others, and where no answer is left the line is empty (`Typed.takeLine`). So the two
answerers always say the same (`prepared_matches_typed`): to any row of requests they give the
answers in order, and then empty ones (`Typed.answers_in_order`), and a run goes the same way with
both (`Dialogue.play_matches`).
-/

namespace Tutor

/-! ## Lines with answers -/

/-- A text that comes back from a line: it holds no line feed and does not end with a carriage
return. -/
structure Typable (answer : String) : Prop where
  oneLine : '\n' ∉ answer.toList
  noReturn : answer.toList.getLast? ≠ some '\r'

/-- How a line may end. -/
def lineEnds : List (List Char) := [['\n'], ['\r', '\n']]

theorem mem_lineEnds {ending : List Char} :
    ending ∈ lineEnds ↔ ending = ['\n'] ∨ ending = ['\r', '\n'] := by
  simp [lineEnds]

/-- The bytes hold these answers, one on each line. -/
inductive Typed : List String → List UInt8 → Prop
  | none : Typed [] []
  | line {answer : String} {rest : List String} {ending : List Char} {bytes : List UInt8} :
    Typable answer → ending ∈ lineEnds → Typed rest bytes →
    Typed (answer :: rest) (Utf8.encode (answer.toList ++ ending) ++ bytes)
  /-- The stream may end within the last line, if there is something on it. -/
  | unended {answer : String} :
    Typable answer → answer ≠ "" → Typed [answer] (Utf8.encode answer.toList)

namespace Typable

variable {answer : String}

theorem dropEndWhile_append (typable : Typable answer) {ending : List Char}
    (ends : ∀ c ∈ ending, Text.isLineEnd c = true) :
    Text.dropEndWhile Text.isLineEnd (answer.toList ++ ending) = answer.toList := by
  rw [Text.dropEndWhile_append_of_pos ends]
  rcases List.eq_nil_or_concat answer.toList with empty | ⟨before, last, split⟩
  · rw [empty]
    rfl
  · rw [List.concat_eq_append] at split
    have noFeed : last ≠ '\n' := by
      rintro rfl
      exact typable.oneLine (by simp [split])
    have noReturn : last ≠ '\r' := by
      rintro rfl
      exact typable.noReturn (by simp [split])
    rw [split]
    exact Text.dropEndWhile_concat_of_neg (by simp [Text.isLineEnd, noFeed, noReturn]) before

theorem answerOfLine (typable : Typable answer) {ending : List Char}
    (ends : ∀ c ∈ ending, Text.isLineEnd c = true) :
    answerOfLine (Utf8.encode (answer.toList ++ ending)) = answer := by
  simp only [Tutor.answerOfLine, Utf8.read?_encode, typable.dropEndWhile_append ends,
    String.ofList_toList]

/-- The line feed that ends the line of an answer is the first. -/
theorem takeLine_append (typable : Typable answer) {ending : List Char} (ends : ending ∈ lineEnds)
    (bytes : List UInt8) :
    Text.takeLine (Utf8.encode (answer.toList ++ ending) ++ bytes) =
      (Utf8.encode (answer.toList ++ ending), bytes) := by
  obtain ⟨before, rfl, clean⟩ : ∃ before, ending = before ++ ['\n'] ∧ '\n' ∉ before := by
    rcases mem_lineEnds.1 ends with rfl | rfl
    · exact ⟨[], rfl, by decide⟩
    · exact ⟨['\r'], rfl, by decide⟩
  have noFeed : 10 ∉ Utf8.encode (answer.toList ++ before) := by
    rw [Utf8.feed_mem_encode, List.mem_append]
    exact not_or.2 ⟨typable.oneLine, clean⟩
  have line : Utf8.encode (answer.toList ++ (before ++ ['\n'])) =
      Utf8.encode (answer.toList ++ before) ++ [10] := by
    rw [← List.append_assoc, Utf8.encode_append, Utf8.encode_cons, Utf8.encodeChar_feed]
    rfl
  rw [line, List.append_assoc, List.singleton_append, Text.takeLine_append noFeed]

theorem takeLine (typable : Typable answer) :
    Text.takeLine (Utf8.encode answer.toList) = (Utf8.encode answer.toList, []) :=
  Text.takeLine_of_not_mem (Utf8.feed_mem_encode.not.2 typable.oneLine)

end Typable

/-- The first line is the first answer, or empty if there is none, and the other lines are the other
answers. -/
theorem Typed.takeLine {answers : List String} {bytes : List UInt8} (typed : Typed answers bytes) :
    answerOfLine (Text.takeLine bytes).1 = answers.headD "" ∧
      Typed answers.tail (Text.takeLine bytes).2 := by
  cases typed with
  | none => exact ⟨rfl, .none⟩
  | @line answer rest ending bytes typable ends rest =>
    have allEnd : ∀ c ∈ ending, Text.isLineEnd c = true := by
      rcases mem_lineEnds.1 ends with rfl | rfl <;> simp [Text.isLineEnd]
    rw [typable.takeLine_append ends]
    exact ⟨typable.answerOfLine allEnd, rest⟩
  | unended typable _ =>
    have whole := @Typable.answerOfLine _ typable [] nofun
    rw [List.append_nil] at whole
    rw [typable.takeLine]
    exact ⟨whole, .none⟩

/-! ## Answerers that agree -/

variable {ι κ α : Type}

/-- Two answerers give the same answers, as long as they start from states in this relation. -/
def Answerer.Matches (who : Answerer ι) (other : Answerer κ) (related : ι → κ → Prop) : Prop :=
  ∀ prompt {a b}, related a b →
    (who.answer prompt a).1 = (other.answer prompt b).1 ∧
      related (who.answer prompt a).2 (other.answer prompt b).2

theorem PreparedAnswers.answer_eq (prompt : Option String) (state : PreparedAnswers) :
    answerer.answer prompt state =
      (state.answers.headD "", ⟨state.answers.tail, state.prompts ++ [prompt]⟩) := by
  rcases state with ⟨_ | ⟨answer, rest⟩, prompts⟩ <;> rfl

/-- Prepared answers are given as if they were typed. -/
theorem prepared_matches_typed :
    PreparedAnswers.answerer.Matches streamAnswerer fun prepared bytes =>
      Typed prepared.answers bytes := by
  intro prompt prepared bytes typed
  obtain ⟨first, others⟩ := typed.takeLine
  rw [PreparedAnswers.answer_eq]
  exact ⟨first.symm, others⟩

/-! ## A row of requests -/

/-- The answers to requests with these prompts, one after another, and the state behind the last. -/
def Answerer.answerAll (who : Answerer ι) : List (Option String) → ι → List String × ι
  | [], state => ([], state)
  | prompt :: prompts, state =>
    let (answer, next) := who.answer prompt state
    let (answers, last) := who.answerAll prompts next
    (answer :: answers, last)

/-- Two answerers that agree on each request agree on a row of them. -/
theorem Answerer.Matches.answerAll {who : Answerer ι} {other : Answerer κ}
    {related : ι → κ → Prop} (agree : who.Matches other related) (prompts : List (Option String))
    {a : ι} {b : κ} (start : related a b) :
    (who.answerAll prompts a).1 = (other.answerAll prompts b).1 ∧
      related (who.answerAll prompts a).2 (other.answerAll prompts b).2 := by
  induction prompts generalizing a b with
  | nil => exact ⟨rfl, start⟩
  | cons prompt prompts ih =>
    obtain ⟨same, next⟩ := agree prompt start
    obtain ⟨others, last⟩ := ih next
    exact ⟨List.cons_eq_cons.2 ⟨same, others⟩, last⟩

/-- Prepared answers are given in order, and when there is none left, empty ones. -/
theorem PreparedAnswers.answerAll_eq (prompts : List (Option String)) (state : PreparedAnswers) :
    answerer.answerAll prompts state =
      (state.answers.takeD prompts.length "",
        ⟨state.answers.drop prompts.length, state.prompts ++ prompts⟩) := by
  induction prompts generalizing state with
  | nil =>
    rw [Answerer.answerAll, List.length_nil, List.takeD_zero, List.drop_zero, List.append_nil]
  | cons prompt prompts ih =>
    -- The other requests start from what this one has left of the answers.
    simp only [Answerer.answerAll, answer_eq, ih, List.length_cons, List.takeD_succ,
      List.drop_tail, List.append_assoc, List.singleton_append, List.headD_eq_head?_getD]

/-- Answers that were typed, with either end behind each line and perhaps none behind the last, are
given to any requests as the same answers are that were prepared: in order, and then empty ones for
ever. -/
theorem Typed.answers_in_order {answers : List String} {bytes : List UInt8}
    (typed : Typed answers bytes) (prompts : List (Option String)) :
    let given := (streamAnswerer.answerAll prompts bytes).1
    given = (PreparedAnswers.answerer.answerAll prompts (.ofList answers)).1 ∧
      given = answers.takeD prompts.length "" := by
  have start : Typed (PreparedAnswers.ofList answers).answers bytes := typed
  have same := (prepared_matches_typed.answerAll prompts start).1.symm
  refine ⟨same, ?_⟩
  rw [same, PreparedAnswers.answerAll_eq]
  rfl

/-- An empty answer and one with a carriage return inside; the stream ends within the last line, and
there are more requests than answers. -/
theorem Typed.answers_in_order_unended :
    let answers := ["", "a\rb", "Ada"]
    let bytes := Utf8.encode "\r\na\rb\nAda".toList
    let prompts := [Option.none, some "Name? ", Option.none, some "", Option.none]
    Typed answers bytes ∧
      (streamAnswerer.answerAll prompts bytes).1 = ["", "a\rb", "Ada", "", ""] := by
  intro answers bytes prompts
  have typed : Typed answers bytes :=
    .line ⟨by decide, by decide⟩ (by decide : ['\r', '\n'] ∈ lineEnds)
      (.line ⟨by decide, by decide⟩ (by decide : ['\n'] ∈ lineEnds)
        (.unended ⟨by decide, by decide⟩ (by decide)))
  exact ⟨typed, (typed.answers_in_order prompts).2⟩

/-! ## A whole run -/

/-- A run goes the same way with two answerers that agree. -/
theorem Dialogue.play_matches {who : Answerer ι} {other : Answerer κ} {related : ι → κ → Prop}
    (agree : who.Matches other related) (dialogue : Dialogue α) {a : ι} {b : κ}
    (start : related a b) :
    let left := dialogue.play who a
    let right := dialogue.play other b
    left.chunks = right.chunks ∧ left.result = right.result ∧
      related left.answers right.answers := by
  induction dialogue generalizing a b with
  | done result => exact ⟨rfl, rfl, start⟩
  | say chunk next ih =>
    obtain ⟨chunks, result, answers⟩ := ih start
    exact ⟨congrArg (chunk :: ·) chunks, result, answers⟩
  | ask prompt next ih =>
    obtain ⟨same, later⟩ := agree prompt start
    simp only [Dialogue.play, same]
    exact ih _ later

end Tutor
