/-!
A run of a program as its user meets it: chunks of output and requests for input, in order, and a
result at the end.

What the program does after a request depends on the answer, so a run is a tree; who answers is
not part of it. `Dialogue.play` follows the branch that given answers choose.
-/

namespace Tutor

/-- What is left of a run that ends with a result in `α`. -/
inductive Dialogue (α : Type) : Type
  /-- The run is over. -/
  | done (result : α)
  /-- The program writes a chunk of output. -/
  | say (chunk : String) (next : Dialogue α)
  /-- The program asks for a line of input, perhaps with a prompt. -/
  | ask (prompt : Option String) (next : String → Dialogue α)

namespace Dialogue

/-- The run with its result changed. -/
def map {α β : Type} (f : α → β) : Dialogue α → Dialogue β
  | done result => done (f result)
  | say chunk next => say chunk (next.map f)
  | ask prompt next => ask prompt fun answer => (next answer).map f

/-- One run followed by another. -/
def andThen {α β : Type} : Dialogue α → (α → Dialogue β) → Dialogue β
  | done result, f => f result
  | say chunk next, f => say chunk (next.andThen f)
  | ask prompt next, f => ask prompt fun answer => (next answer).andThen f

end Dialogue

/-- Someone who answers requests for input; what has happened so far is a state in `ι`. -/
structure Answerer (ι : Type) where
  answer : Option String → ι → String × ι

/-- What is known after a run: the chunks in order, the result, and the answerer's state. -/
structure Transcript (ι α : Type) where
  chunks : List String
  result : α
  answers : ι

/-- Plays a run to its end. -/
def Dialogue.play {ι α : Type} (who : Answerer ι) : Dialogue α → ι → Transcript ι α
  | done result, answers => ⟨[], result, answers⟩
  | say chunk next, answers =>
    let rest := next.play who answers
    { rest with chunks := chunk :: rest.chunks }
  | ask prompt next, answers =>
    let (answer, answers) := who.answer prompt answers
    (next answer).play who answers

end Tutor
