import Tutor.Child.Relay
import Tutor.Proofs.Child.Input
import Tutor.Proofs.Text.Lines

/-!
What a conversation with a child comes to.

A relay sees a child's bytes in pieces and takes turns with the child and with whoever answers, and
some of the answers may not arrive. None of this matters in the end: `passage` runs over the lines
of all that the child writes, and a conversation writes, asks and reports what it says and gives its
replies to the input (`Child.converse_play`). They all arrive at a child that never closes its input
(`Child.Listens.unread_isSome`).
-/

namespace Tutor

variable {ι α : Type}

/-! ## Lines -/

/-- What lines of output lead to: the chunks that are written, the answers that are sent back, the
last report, and the answerer's state. -/
structure Passage (ι : Type) where
  chunks : List String
  replies : List String
  report : Option String
  answers : ι

/-- The chunk in front of a marker; there is none where nothing stands. -/
def chunkBefore (before : String) : List String := if before = "" then [] else [before]

/-- Passes lines on, one after another. -/
def passage (who : Answerer ι) : List ChildLine → ι → Passage ι
  | [], answers => ⟨[], [], none, answers⟩
  | .output chunk :: lines, answers =>
    let rest := passage who lines answers
    { rest with chunks := chunk :: rest.chunks }
  | .request before prompt :: lines, answers =>
    let (reply, answers) := who.answer prompt answers
    let rest := passage who lines answers
    { rest with chunks := chunkBefore before ++ rest.chunks, replies := reply :: rest.replies }
  | .report before text :: lines, answers =>
    let rest := passage who lines answers
    { rest with
      chunks := chunkBefore before ++ rest.chunks
      report := rest.report.or (some text) }

/-- One passage behind another. -/
def Passage.andThen (first second : Passage ι) : Passage ι :=
  ⟨first.chunks ++ second.chunks, first.replies ++ second.replies,
    second.report.or first.report, second.answers⟩

theorem passage_append (who : Answerer ι) (lines more : List ChildLine) (answers : ι) :
    passage who (lines ++ more) answers =
      (passage who lines answers).andThen
        (passage who more (passage who lines answers).answers) := by
  induction lines generalizing answers with
  | nil => simp [passage, Passage.andThen]
  | cons line lines ih =>
    cases line with
    | output chunk => simp [passage, Passage.andThen, ih]
    | request before prompt => simp [passage, Passage.andThen, ih]
    | report before text => simp [passage, Passage.andThen, ih]

/-! ## A relay -/

namespace Relay

/-- The relay behind a passage. -/
def after (relay : Relay) (p : Passage ι) : Relay :=
  { relay with
    input := p.replies.foldl ChildInput.answer relay.input
    report := p.report.or relay.report }

theorem sayBefore_play (who : Answerer ι) (before : String) (next : Dialogue α) (answers : ι) :
    (sayBefore before next).play who answers =
      ⟨chunkBefore before ++ (next.play who answers).chunks, (next.play who answers).result,
        (next.play who answers).answers⟩ := by
  unfold sayBefore chunkBefore
  split
  · rfl
  · rfl

/-- Lines are passed on before everything else, and the relay remembers what came of them. -/
theorem passAll_play (who : Answerer ι) (next : Relay → Dialogue α) (lines : List (List UInt8))
    (relay : Relay) (answers : ι) :
    let p := passage who (lines.map ChildLine.ofLine) answers
    let t := (next (relay.after p)).play who p.answers
    (passAll next lines relay).play who answers = ⟨p.chunks ++ t.chunks, t.result, t.answers⟩ := by
  induction lines generalizing relay answers with
  | nil => simp [passAll, passage, after]
  | cons line lines ih =>
    simp only [passAll, List.map_cons]
    cases ChildLine.ofLine line with
    | output chunk =>
      simp only [pass, Dialogue.play, ih]
      rfl
    | request before prompt =>
      rcases asked : who.answer prompt answers with ⟨reply, asked'⟩
      simp only [pass, sayBefore_play, Dialogue.play, asked, ih, passage]
      simp [after]
    | report before text =>
      simp only [pass, sayBefore_play, ih, passage]
      simp [after]

theorem hear_play (who : Answerer ι) (bytes : List UInt8) (next : Relay → Dialogue α)
    (relay : Relay) (answers : ι) :
    let cut := Text.wholeLines (relay.line ++ bytes)
    let p := passage who (cut.1.map ChildLine.ofLine) answers
    let t := (next { relay.after p with line := cut.2 }).play who p.answers
    (relay.hear bytes next).play who answers = ⟨p.chunks ++ t.chunks, t.result, t.answers⟩ :=
  passAll_play who (fun relay' => next { relay' with line := _ }) _ relay answers

theorem finish_play (who : Answerer ι) (next : Relay → Dialogue α) (relay : Relay) (answers : ι) :
    let lines := if relay.line = [] then [] else [relay.line]
    let p := passage who (lines.map ChildLine.ofLine) answers
    let t := (next { relay.after p with line := [] }).play who p.answers
    (relay.finish next).play who answers = ⟨p.chunks ++ t.chunks, t.result, t.answers⟩ := by
  obtain ⟨line, input, report⟩ := relay
  cases line with
  | nil => simp [finish, passage, after]
  | cons byte line =>
    exact passAll_play who (fun relay => next { relay with line := [] }) [byte :: line] _ answers

end Relay

/-! ## The whole conversation -/

/-- What a child leaves behind: all that it has written, and how it ended. -/
structure Child.Legacy where
  output : List UInt8
  status : ExitStatus
  errors : List UInt8

/-- What a child leaves behind from some moment of a conversation on. -/
def Child.leaves (who : Answerer ι) : Child → Relay → ι → Legacy
  | exits status errors, _, _ => ⟨[], status, errors⟩
  | writes bytes next, relay, answers =>
    let heard := (relay.hear bytes .done).play who answers
    let rest := next.leaves who heard.result heard.answers
    { rest with output := bytes ++ rest.output }
  | reads next, relay, answers =>
    let (line, input) := relay.input.deliver
    (next line).leaves who { relay with input } answers
  | closes next, relay, answers =>
    next.leaves who { relay with input := relay.input.close } answers

/-- All that a child writes in a conversation from some moment on. -/
def Child.spoken (who : Answerer ι) (child : Child) (relay : Relay) (answers : ι) : List UInt8 :=
  (child.leaves who relay answers).output

/-- A conversation that a relay began has come to a passage. -/
structure Transcript.Matches (t : Transcript ι Farewell) (relay : Relay) (p : Passage ι) :
    Prop where
  chunks : t.chunks = p.chunks
  answers : t.answers = p.answers
  given : ∀ values, relay.input.Given values →
    t.result.relay.input.Given (values ++ p.replies)
  report : t.result.relay.report = p.report.or relay.report

/-- What came before a conversation belongs to the passage as well. -/
theorem Transcript.Matches.behind {t : Transcript ι Farewell} {relay : Relay} {p q : Passage ι}
    {line : List UInt8} (rest : t.Matches { relay.after p with line } q) :
    Transcript.Matches ⟨p.chunks ++ t.chunks, t.result, t.answers⟩ relay (p.andThen q) where
  chunks := by rw [rest.chunks, Passage.andThen]
  answers := by rw [rest.answers, Passage.andThen]
  given := by
    intro values given
    have later := rest.given _ (given.answerAll p.replies)
    rwa [List.append_assoc] at later
  report := by simp [rest.report, Relay.after, Passage.andThen, Option.or_assoc]

/-- A conversation comes to the passage of all lines that the child writes, in whatever pieces it
writes them, whatever it reads in between and whenever it closes its input. -/
theorem Child.converse_play (who : Answerer ι) (child : Child) {relay : Relay}
    (clean : 10 ∉ relay.line) (answers : ι) :
    let t := (child.converse relay).play who answers
    let left := child.leaves who relay answers
    t.Matches relay
        (passage who ((Text.allLines (relay.line ++ left.output)).map .ofLine) answers) ∧
      t.result.status = left.status ∧ t.result.errors = left.errors := by
  -- Between two pieces only the unfinished line matters, and it never holds a line feed.
  induction child generalizing relay answers with
  | exits status errors =>
    simp only [leaves, converse, List.append_nil, Text.allLines_of_not_mem clean,
      Relay.finish_play]
    refine ⟨⟨?_, rfl, fun values given => given.answerAll _, rfl⟩, rfl, rfl⟩
    simp [Dialogue.play]
  | writes bytes next ih =>
    simp only [leaves, converse]
    rw [← List.append_assoc, Text.allLines_append, List.map_append, passage_append]
    simp only [Relay.hear_play, Dialogue.play]
    have rest := Text.wholeLines_rest_clean (relay.line ++ bytes)
    exact ⟨Transcript.Matches.behind (ih rest _).1, (ih rest _).2⟩
  | reads next ih =>
    obtain ⟨rest, ended⟩ :=
      @ih relay.input.deliver.1 { relay with input := relay.input.deliver.2 } clean answers
    refine ⟨⟨rest.chunks, rest.answers, ?_, rest.report⟩, ended⟩
    exact fun values given => rest.given values given.deliver
  | closes next ih =>
    obtain ⟨rest, ended⟩ := @ih { relay with input := relay.input.close } clean answers
    refine ⟨⟨rest.chunks, rest.answers, ?_, rest.report⟩, ended⟩
    exact fun values given => rest.given values given.close

/-- A child that never closes its input. -/
inductive Child.Listens : Child → Prop
  | exits {status : ExitStatus} {errors : List UInt8} : Listens (.exits status errors)
  | writes {bytes : List UInt8} {next : Child} : next.Listens → Listens (.writes bytes next)
  | reads {next : Option (List UInt8) → Child} : (∀ line, (next line).Listens) →
    Listens (.reads next)

theorem Child.Listens.unread_isSome {child : Child} (listens : child.Listens) (who : Answerer ι)
    (relay : Relay) (answers : ι) :
    ((child.converse relay).play who answers).result.relay.input.unread.isSome =
      relay.input.unread.isSome := by
  induction listens generalizing relay answers with
  | exits =>
    simp only [converse, Relay.finish_play, Dialogue.play]
    exact ChildInput.isSome_unread_answerAll _ _
  | writes _ ih =>
    simp only [converse, Relay.hear_play]
    exact (ih _ _).trans (ChildInput.isSome_unread_answerAll _ _)
  | @reads next _ ih =>
    exact (ih relay.input.deliver.1 { relay with input := relay.input.deliver.2 } answers).trans
      relay.input.isSome_unread_deliver

end Tutor
