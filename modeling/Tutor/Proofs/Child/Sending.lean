import Tutor.Child.Interpreter
import Tutor.Proofs.Child.Outcome
import Tutor.Proofs.Run.Course

/-!
What a child is sent.

The submission and each answer go to a child as a line of JSON, and a conversation under any answers
is one with answers that were prepared (`Dialogue.Goes.play_prepared`). So what is known of the
values that such a conversation gives to the input (`Child.converse_play`) holds on every course: the
submission and the answers are found again in what a whole run sends (`Command.interpreter_sends`).
-/

namespace Tutor

/-- Prepared answers are given one after another, and one prompt is written down for each. -/
theorem passage_prepared (lines : List ChildLine) (answers : PreparedAnswers) :
    let p := passage PreparedAnswers.answerer lines answers
    p.replies = answers.answers.takeD p.replies.length "" ∧
      p.answers.prompts.length = answers.prompts.length + p.replies.length := by
  induction lines generalizing answers with
  | nil => exact ⟨rfl, rfl⟩
  | cons line lines ih =>
    cases line with
    | output chunk => exact ih answers
    | report before text => exact ih answers
    | request before prompt =>
      simp only [passage, PreparedAnswers.answer_eq]
      obtain ⟨replies, prompts⟩ := ih ⟨answers.answers.tail, answers.prompts ++ [prompt]⟩
      refine ⟨?_, ?_⟩
      · rw [List.length_cons, List.takeD_succ, ← replies, List.headD_eq_head?_getD]
      · rw [prompts, List.length_append, List.length_singleton, List.length_cons, Nat.add_assoc,
          Nat.add_comm 1]

/-- There is one answer to each prompt. -/
theorem length_answersOf (course : List Exchange) :
    (answersOf course).length = (promptsOf course).length := by
  induction course with
  | nil => rfl
  | cons exchange course ih =>
    cases exchange with
    | said chunk => exact ih
    | answered prompt answer => exact congrArg (· + 1) ih

/-- On every course of a conversation the answers were given to the input, in their order, and
nothing else was. -/
theorem Child.converse_given {child : Child} {input : ChildInput} {course : List Exchange}
    {farewell : Farewell} (goes : (child.converse (.new input)).Goes course farewell)
    {values : List String} (given : input.Given values) :
    farewell.relay.input.Given (values ++ answersOf course) := by
  have noFeed : 10 ∉ (Relay.new input).line := List.not_mem_nil
  let answers : PreparedAnswers := ⟨answersOf course, []⟩
  obtain ⟨matched, -⟩ := child.converse_play PreparedAnswers.answerer noFeed answers
  rw [goes.play_prepared] at matched
  let lines := (Text.allLines ((Relay.new input).line ++
    (child.leaves PreparedAnswers.answerer (.new input) answers).output)).map ChildLine.ofLine
  obtain ⟨replies, count⟩ := passage_prepared lines answers
  -- As many answers were given as there are prompts, and these are all that were prepared.
  have all : (passage PreparedAnswers.answerer lines answers).replies.length =
      (answersOf course).length := by
    rw [← matched.answers, List.nil_append, List.length_nil, Nat.zero_add] at count
    rw [length_answersOf, count]
  have same : (passage PreparedAnswers.answerer lines answers).replies = answersOf course := by
    rw [replies, all]
    exact (List.takeD_eq_take _ le_rfl).trans List.take_length
  have later := matched.given values given
  rwa [same] at later

theorem Child.Listens.unread_isSome_of_goes {child : Child} (listens : child.Listens)
    {input : ChildInput} {course : List Exchange} {farewell : Farewell}
    (goes : (child.converse (.new input)).Goes course farewell) :
    farewell.relay.input.unread.isSome = input.unread.isSome := by
  have kept := listens.unread_isSome PreparedAnswers.answerer (.new input) ⟨answersOf course, []⟩
  rwa [goes.play_prepared] at kept

open ChildInterpreter in
/-- Whatever a child writes, in whatever pieces, whenever it reads and whether it closes its input:
a run can be given any answers, and what has gone into the input at the end splits at the line feeds
into one line for each value, the submission first and then the answers in the order of the
requests, with nothing behind the last. If the child never closes its input these are all the
values, and else those before the first that did not arrive. As JSON the lines stand for just these
values, none of their bytes is a control character, and the child takes the lines one after
another. -/
theorem Command.interpreter_sends {ω : Type} {command : Command} {host : Host ω} {source : String}
    {world next : ω} {child : Child} {input : ChildInput}
    (started : host.start command runArguments world = (.ok child, next))
    (delivered : child.opening.send source = .ok input) :
    let talk := child.converse (.new input)
    (command.interpreter host).execute source world =
        talk.map (fun farewell => (judgeRun farewell, next)) ∧
      (∀ answers : List String, ∃ course result, talk.Goes course result ∧
        answersOf course = answers.takeD (promptsOf course).length "") ∧
      ∀ course farewell, talk.Goes course farewell →
        let values := source :: answersOf course
        let sending := farewell.relay.input
        ∃ arrived lost lines, arrived ++ lost = values ∧
          sending.undelivered = List.replicate lost.length .brokenPipe ∧
          (child.Listens → lost = []) ∧
          sending.sent.splitOn 10 = lines ++ [[]] ∧
          lines.map decodeValue? = arrived.map some ∧
          (∀ line ∈ lines, ∀ byte ∈ line, 0x20 ≤ byte.toNat) ∧
          sending.taken <+: lines.map (· ++ [10]) := by
  intro talk
  refine ⟨interpreter_execute started delivered, fun answers => ?_, fun course farewell goes => ?_⟩
  · obtain ⟨course, goes, -, answered, -⟩ := talk.play_prepared (PreparedAnswers.ofList answers)
    exact ⟨course, _, goes, answered⟩
  · obtain ⟨first, isOpen⟩ := ChildInput.given_of_opening delivered
    obtain ⟨taken, left, lost, parts, holds⟩ := Child.converse_given goes first
    refine ⟨taken ++ left, lost, (taken ++ left).map encodeValue, parts, holds.undelivered, ?_, ?_,
      ?_, ?_, ?_⟩
    · intro listens
      have stillOpen := (listens.unread_isSome_of_goes goes).trans isOpen
      obtain ⟨rest, unread⟩ := Option.isSome_iff_exists.1 stillOpen
      exact (holds.unread rest unread).2
    · rw [holds.sent, splitOn_inputLines]
    · rw [List.map_map]
      exact List.map_congr_left fun value _ => decodeValue?_encodeValue value
    · exact List.forall_mem_map.2 fun value _ byte member => encodeValue_visible member
    · have lines : ((taken ++ left).map encodeValue).map (· ++ [10]) =
          (taken ++ left).map inputLine := by
        rw [List.map_map]
        exact List.map_congr_left fun value _ => (inputLine_eq value).symm
      rw [lines, holds.taken, List.map_append]
      exact List.prefix_append _ _

/-- A program with a line feed in it, and answers with a line feed, the NUL character, a quotation
mark and a backslash; the child asks twice at once and does not read the second answer. -/
theorem Command.interpreter_sends_controls :
    let request := Utf8.encode (requestMarker ++ "\"\"\n").toList
    let child : Child := .reads fun _ => .writes (request ++ request) (.reads fun _ =>
      .exits (.exited 0) [])
    let command : Command := ⟨"python3", []⟩
    let host : Host Unit := ⟨fun _ _ world => (.error .notImplemented, world),
      fun _ _ world => (.ok child, world)⟩
    let input : ChildInput := ⟨inputLine "x\n", [], some (inputLine "x\n"), []⟩
    host.start command ChildInterpreter.runArguments () = (.ok child, ()) ∧
      child.opening.send "x\n" = .ok input ∧ child.Listens ∧
      ∃ course farewell, (child.converse (.new input)).Goes course farewell ∧
        answersOf course = ["a\n\x00", "\"\\"] ∧
        ∃ lines, farewell.relay.input.sent.splitOn 10 = lines ++ [[]] ∧
          lines.map decodeValue? = [some "x\n", some "a\n\x00", some "\"\\"] ∧
          (∀ line ∈ lines, ∀ byte ∈ line, 0x20 ≤ byte.toNat) ∧
          farewell.relay.input.taken <+: lines.map (· ++ [10]) ∧
          farewell.relay.input.taken.length = 2 := by
  intro request child command host input
  let answers := PreparedAnswers.ofList ["a\n\x00", "\"\\"]
  let talk := child.converse (.new input)
  have delivered : child.opening.send "x\n" = .ok input := rfl
  have listens : child.Listens := .reads fun _ => .writes (.reads fun _ => .exits)
  have asked : (talk.play PreparedAnswers.answerer answers).answers.prompts = [none, none] := by
    subst talk answers input host command child request
    decide +kernel
  have read : (talk.play PreparedAnswers.answerer answers).result.relay.input.taken.length = 2 := by
    subst talk answers input host command child request
    decide +kernel
  obtain ⟨course, goes, -, answered, prompts, -⟩ := talk.play_prepared answers
  rw [asked] at prompts
  have prompts : promptsOf course = [none, none] := prompts.symm
  rw [prompts] at answered
  obtain ⟨-, -, sends⟩ :=
    @Command.interpreter_sends Unit command host "x\n" () () child input rfl delivered
  obtain ⟨arrived, lost, lines, parts, -, all, split, decoded, visible, inOrder⟩ :=
    sends course _ goes
  rw [all listens, List.append_nil] at parts
  rw [parts, answered] at decoded
  exact ⟨rfl, delivered, listens, course, _, goes, answered, lines, split, decoded, visible, inOrder,
    read⟩

end Tutor
