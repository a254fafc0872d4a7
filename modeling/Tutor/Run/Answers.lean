import Tutor.Run.Dialogue
import Tutor.Text.Lines
import Tutor.Text.Blank
import Tutor.Text.Utf8

/-!
Two ways to answer a program's requests for input: from a list that was written down before, and
from the lines of a stream. When there is nothing left, both answer with the empty text, which
stands for a dismissed prompt.
-/

namespace Tutor

/-! ## Prepared answers -/

/-- Answers that are left, and the prompts that have been seen, in order. -/
structure PreparedAnswers where
  answers : List String
  prompts : List (Option String)
  deriving DecidableEq, Repr

/-- Before the first prompt. -/
def PreparedAnswers.ofList (answers : List String) : PreparedAnswers := ⟨answers, []⟩

/-- Hands out one answer after another. -/
def PreparedAnswers.answerer : Answerer PreparedAnswers where
  answer prompt state :=
    match state.answers with
    | [] => ("", ⟨[], state.prompts ++ [prompt]⟩)
    | answer :: rest => (answer, ⟨rest, state.prompts ++ [prompt]⟩)

/-! ## Answers from a stream -/

/-- A line of bytes as an answer: without the line ends behind it, and empty if it is no text. -/
def answerOfLine (line : List UInt8) : String :=
  match Utf8.read? line with
  | some text => String.ofList (Text.dropEndWhile Text.isLineEnd text)
  | none => ""

/-- Answers with one line of the stream after another; the state is the unread part. -/
def streamAnswerer : Answerer (List UInt8) where
  answer _ bytes :=
    let (line, rest) := Text.takeLine bytes
    (answerOfLine line, rest)

end Tutor
