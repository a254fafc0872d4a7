import Tutor.Proofs.Child.Passage
import Tutor.Proofs.Run.Answers
import Tutor.Proofs.Text.Blank
import Tutor.Proofs.Text.Find

/-!
Taking a child's output apart again.

A child writes program text, requests for input and reports of errors into one stream. A request or
a report is one marker, one JSON string and a line feed, and begins where the text before it has
stopped, often in the middle of a line. As text holds no NUL character, a relay finds every marker:
it writes the text alone, asks for each request and keeps the last report
(`Child.converse_segments`).
-/

namespace Tutor

variable {ι : Type}

/-! ## Segments -/

/-- A part of a child's output. -/
inductive Segment
  | text (s : String)
  | request (prompt : String)
  | report (text : String)
  deriving DecidableEq, Repr

namespace Segment

/-- The ways to write a segment. -/
inductive Written : Segment → List Char → Prop
  | text {s : String} (clean : '\x00' ∉ s.toList) : Written (.text s) s.toList
  | request {prompt : String} {body : List Char} (spells : Json.Spells body prompt.toList) :
      Written (.request prompt) (requestMarker.toList ++ (Json.quote body ++ ['\n']))
  | report {text : String} {body : List Char} (spells : Json.Spells body text.toList) :
      Written (.report text) (reportMarker.toList ++ (Json.quote body ++ ['\n']))

/-- A segment as the prelude writes it. -/
def render : Segment → List Char
  | text s => s.toList
  | request prompt =>
    requestMarker.toList ++ (Json.quote (prompt.toList.flatMap Json.asciiEscape) ++ ['\n'])
  | report e => reportMarker.toList ++ (Json.quote (e.toList.flatMap Json.asciiEscape) ++ ['\n'])

theorem render_written {segments : List Segment}
    (clean : ∀ s, text s ∈ segments → '\x00' ∉ s.toList) :
    List.Forall₂ Written segments (segments.map render) := by
  induction segments with
  | nil => exact .nil
  | cons segment segments ih =>
    refine .cons ?_ (ih fun s member => clean s (List.mem_cons_of_mem _ member))
    cases segment with
    | text s => exact .text (clean s List.mem_cons_self)
    | request prompt => exact .request (Json.spells_asciiEscape _)
    | report e => exact .report (Json.spells_asciiEscape _)

/-- The text that the program has written. -/
def programText : Segment → String
  | text s => s
  | request _ | report _ => ""

/-- The prompt that is shown for a request; an empty one is not. -/
def prompt? : Segment → Option (Option String)
  | request prompt => some (if prompt = "" then none else some prompt)
  | text _ | report _ => none

/-- The text of a report. -/
def report? : Segment → Option String
  | report e => some e
  | text _ | request _ => none

end Segment

/-! ## Lines -/

namespace ChildLine

theorem nul_not_mem_payload {body text : List Char} (spells : Json.Spells body text) :
    '\x00' ∉ Json.quote body ++ ['\n'] := by
  have clean : '\x00' ∉ Json.quote body := spells.not_mem_quote (by decide)
  simp [clean]

theorem trimEnd_payload (body : List Char) :
    Text.trimEnd (Json.quote body ++ ['\n']) = Json.quote body := by
  have feed : ∀ c ∈ ['\n'], Text.isBlank c = true := List.forall_mem_singleton.2 (by decide)
  rw [Text.trimEnd, Text.dropEndWhile_append_of_pos feed, Json.quote]
  exact Text.dropEndWhile_concat_of_neg (by decide) _

theorem reportMarker_toList :
    reportMarker.toList = '\x00' :: ("PYEXPLAIN_ERROR".toList ++ ['\x00']) := rfl

theorem requestMarker_toList :
    requestMarker.toList = '\x00' :: ("PYEXPLAIN_INPUT".toList ++ ['\x00']) := rfl

theorem ofText_output {line : List Char} (clean : '\x00' ∉ line) :
    ofText line = .output (String.ofList line) := by
  unfold ofText
  rw [reportMarker_toList, Text.splitAround_of_not_mem clean, requestMarker_toList,
    Text.splitAround_of_not_mem clean]

theorem ofText_report {before body text : List Char} (clean : '\x00' ∉ before)
    (spells : Json.Spells body text) :
    ofText (before ++ (reportMarker.toList ++ (Json.quote body ++ ['\n']))) =
      .report (String.ofList before) (String.ofList text) := by
  unfold ofText
  rw [reportMarker_toList, List.cons_append, Text.splitAround_mark clean]
  simp only [reportOf, trimEnd_payload, Json.readString?_literal spells, Option.getD_some]

theorem ofText_request {before body text : List Char} (clean : '\x00' ∉ before)
    (spells : Json.Spells body text) :
    ofText (before ++ (requestMarker.toList ++ (Json.quote body ++ ['\n']))) =
      .request (String.ofList before)
        (if String.ofList text = "" then none else some (String.ofList text)) := by
  have noReport : Text.splitAround reportMarker.toList []
      (before ++ (requestMarker.toList ++ (Json.quote body ++ ['\n']))) = none := by
    rw [reportMarker_toList, requestMarker_toList, List.cons_append, List.append_assoc,
      List.singleton_append, Text.splitAround_other clean rfl,
      Text.splitAround_other (by decide) rfl,
      Text.splitAround_of_not_mem (nul_not_mem_payload spells)]
  unfold ofText
  rw [noReport, requestMarker_toList, List.cons_append, Text.splitAround_mark clean]
  simp only [promptOf, trimEnd_payload, Json.readString?_literal spells]

end ChildLine

/-! ## Texts -/

/-- The lines of a text that a child writes. -/
def childLines (text : List Char) : List ChildLine :=
  (Text.allLines (Utf8.encode text)).map .ofLine

theorem childLines_cons {line : List Char} (clean : '\n' ∉ line) (text : List Char) :
    childLines (line ++ '\n' :: text) = .ofText (line ++ ['\n']) :: childLines text := by
  have noFeed : 10 ∉ Utf8.encode line := fun member => clean (Utf8.feed_mem_encode.1 member)
  have feed : Utf8.encode line ++ [10] = Utf8.encode (line ++ ['\n']) := by
    rw [Utf8.encode_append]
    rfl
  have cut := Text.allLines_cons noFeed (Utf8.encode text)
  rw [childLines, Utf8.encode_append, Utf8.encode_cons, Utf8.encodeChar_feed, List.singleton_append,
    cut, feed, List.map_cons, ChildLine.ofLine, Utf8.readLossy_encode]
  rfl

theorem childLines_of_not_mem {line : List Char} (clean : '\n' ∉ line) :
    childLines line = if line = [] then [] else [.ofText line] := by
  have noFeed : 10 ∉ Utf8.encode line := fun member => clean (Utf8.feed_mem_encode.1 member)
  simp only [childLines, Text.allLines_of_not_mem noFeed, Utf8.encode_eq_nil]
  split
  · rfl
  · simp [ChildLine.ofLine]

/-- A marker and its payload end the line that they stand on. -/
theorem childLines_marked {line marker body text : List Char} (noFeed : '\n' ∉ line)
    (markerNoFeed : '\n' ∉ marker) (spells : Json.Spells body text) (behind : List Char) :
    childLines (line ++ (marker ++ (Json.quote body ++ ['\n']) ++ behind)) =
      .ofText (line ++ (marker ++ (Json.quote body ++ ['\n']))) :: childLines behind := by
  have payload : '\n' ∉ Json.quote body := spells.not_mem_quote (by decide)
  have whole : '\n' ∉ line ++ (marker ++ Json.quote body) := by
    simp [noFeed, markerNoFeed, payload]
  have cut := childLines_cons whole behind
  simpa using cut

/-- A text has the passage that is due: some output, a reply for each prompt, a report. -/
def Carries (who : Answerer ι) (text output : List Char) (prompts : List (Option String))
    (report : Option String) : Prop :=
  ∀ answers, ∃ chunks : List String, chunks.flatMap String.toList = output ∧
    passage who (childLines text) answers =
      ⟨chunks, (who.answerAll prompts answers).1, report, (who.answerAll prompts answers).2⟩

theorem chunkBefore_toList (before : List Char) :
    (chunkBefore (String.ofList before)).flatMap String.toList = before := by
  unfold chunkBefore
  split
  · rename_i none
    simpa using none.symm
  · simp

namespace Carries

variable {who : Answerer ι} {line before text output body prompt : List Char}
  {prompts : List (Option String)} {last : Option String}

theorem output_rest (noFeed : '\n' ∉ line) (clean : '\x00' ∉ line) :
    Carries who line line [] none := by
  intro answers
  rw [childLines_of_not_mem noFeed, ChildLine.ofText_output clean]
  split
  · rename_i none
    exact ⟨[], by simp [none], rfl⟩
  · exact ⟨[String.ofList line], by simp, rfl⟩

theorem output_line (noFeed : '\n' ∉ line) (clean : '\x00' ∉ line)
    (behind : Carries who text output prompts last) :
    Carries who (line ++ '\n' :: text) (line ++ '\n' :: output) prompts last := by
  intro answers
  obtain ⟨chunks, written, same⟩ := behind answers
  have cleanLine : '\x00' ∉ line ++ ['\n'] := by simpa using clean
  rw [childLines_cons noFeed, ChildLine.ofText_output cleanLine, passage, same]
  exact ⟨String.ofList (line ++ ['\n']) :: chunks, by simp [written], rfl⟩

theorem request (noFeed : '\n' ∉ line) (clean : '\x00' ∉ line)
    (spells : Json.Spells body prompt) (behind : Carries who text output prompts last) :
    Carries who (line ++ (requestMarker.toList ++ (Json.quote body ++ ['\n']) ++ text))
      (line ++ output)
      ((if String.ofList prompt = "" then none else some (String.ofList prompt)) :: prompts)
      last := by
  intro answers
  rw [childLines_marked noFeed (by decide) spells, ChildLine.ofText_request clean spells, passage]
  generalize (if String.ofList prompt = "" then none else some (String.ofList prompt)) = shown
  rcases asked : who.answer shown answers with ⟨reply, answers'⟩
  obtain ⟨chunks, written, same⟩ := behind answers'
  refine ⟨chunkBefore (String.ofList line) ++ chunks, ?_, ?_⟩
  · rw [List.flatMap_append, chunkBefore_toList, written]
  · simp only [same, Answerer.answerAll, asked]

theorem report (noFeed : '\n' ∉ line) (clean : '\x00' ∉ line)
    (spells : Json.Spells body prompt) (behind : Carries who text output prompts last) :
    Carries who (line ++ (reportMarker.toList ++ (Json.quote body ++ ['\n']) ++ text))
      (line ++ output) prompts (last.or (some (String.ofList prompt))) := by
  intro answers
  obtain ⟨chunks, written, same⟩ := behind answers
  rw [childLines_marked noFeed (by decide) spells, ChildLine.ofText_report clean spells, passage,
    same]
  refine ⟨chunkBefore (String.ofList line) ++ chunks, ?_, rfl⟩
  rw [List.flatMap_append, chunkBefore_toList, written]

/-- Text in front takes nothing away: its whole lines come first, and what stands behind them is
met together with the line that follows. -/
theorem text_before (clean : '\x00' ∉ before)
    (behind : ∀ line, '\n' ∉ line → '\x00' ∉ line →
      Carries who (line ++ text) (line ++ output) prompts last) :
    Carries who (before ++ text) (before ++ output) prompts last := by
  induction before using Text.lineInduction '\n' with
  | rest line noFeed => exact behind line noFeed clean
  | line line before noFeed ih =>
    simp only [List.mem_append, List.mem_cons, not_or] at clean
    rw [List.append_assoc, List.append_assoc]
    exact output_line noFeed clean.1 (ih clean.2.2)

theorem segments {segments : List Segment} {texts : List (List Char)}
    (written : List.Forall₂ Segment.Written segments texts) (clean : '\x00' ∉ before) :
    Carries who (before ++ texts.flatten)
      (before ++ segments.flatMap fun segment => segment.programText.toList)
      (segments.filterMap Segment.prompt?) (segments.filterMap Segment.report?).getLast? := by
  -- Text waits in `before` until a marker or the end of the stream closes its last line.
  induction written generalizing before with
  | nil =>
    refine text_before clean fun line noFeed clean => ?_
    simpa using output_rest noFeed clean
  | cons first _ ih =>
    cases first with
    | @text s cleanText =>
      have both : '\x00' ∉ before ++ s.toList := by simp [clean, cleanText]
      simpa [List.filterMap_cons, Segment.prompt?, Segment.report?, Segment.programText] using
        ih both
    | request spells =>
      have behind := ih (List.not_mem_nil : '\x00' ∉ [])
      refine text_before clean fun line noFeed clean => ?_
      have asked := request noFeed clean spells behind
      simpa [List.filterMap_cons, Segment.prompt?, Segment.report?, Segment.programText] using
        asked
    | report spells =>
      have behind := ih (List.not_mem_nil : '\x00' ∉ [])
      refine text_before clean fun line noFeed clean => ?_
      have reported := report noFeed clean spells behind
      simpa [List.filterMap_cons, Segment.prompt?, Segment.report?, Segment.programText,
        List.getLast?_cons] using reported

end Carries

/-! ## The conversation -/

/-- Whatever segments a child writes, in whatever pieces: the text of the program is written, and
nothing else; each request is put once, in order; the answers go to the child's input in that order,
behind the source; and the last report is kept. All of them go in if the child never closes its
input, and else those before some place; of what has gone in the child takes line after line, and
what is unread is what it has not taken. -/
theorem Child.converse_segments (who : Answerer ι) (answers : ι) {source : String} {child : Child}
    {input : ChildInput} {segments : List Segment} {texts : List (List Char)}
    (delivered : child.opening.send source = .ok input)
    (written : List.Forall₂ Segment.Written segments texts)
    (spoken : child.spoken who (.new input) answers = Utf8.encode texts.flatten) :
    let t := (child.converse (.new input)).play who answers
    let asked := who.answerAll (segments.filterMap Segment.prompt?) answers
    let sending := t.result.relay.input
    String.join t.chunks = String.join (segments.map Segment.programText) ∧
      t.answers = asked.2 ∧
      (child.Listens → sending.sent = inputLine source ++ asked.1.flatMap inputLine) ∧
      (∃ taken left lost, taken ++ left ++ lost = source :: asked.1 ∧
        sending.Holds taken left lost) ∧
      (∀ rest ∈ sending.unread, sending.sent = sending.taken.flatten ++ rest) ∧
      t.result.relay.report = (segments.filterMap Segment.report?).getLast? := by
  intro t asked sending
  have noFeed : 10 ∉ (Relay.new input).line := List.not_mem_nil
  obtain ⟨matched, -⟩ := child.converse_play who noFeed answers
  have carried : Carries who ([] ++ texts.flatten) _ _ _ :=
    Carries.segments written List.not_mem_nil
  obtain ⟨chunks, output, same⟩ := carried answers
  have lines : (Text.allLines ((Relay.new input).line ++
      (child.leaves who (.new input) answers).output)).map ChildLine.ofLine =
        childLines ([] ++ texts.flatten) := by
    rw [show (child.leaves who (.new input) answers).output = _ from spoken]
    rfl
  rw [lines, same] at matched
  obtain ⟨first, isOpen⟩ := ChildInput.given_of_opening delivered
  have given : sending.Given (source :: asked.1) := matched.given [source] first
  refine ⟨?_, matched.answers, ?_, given, fun rest unread => given.sent_of_unread unread, ?_⟩
  · rw [← String.toList_inj, String.toList_join, String.toList_join, matched.chunks, output,
      List.flatMap_map, List.nil_append]
  · intro listens
    exact given.sent_of_isSome ((listens.unread_isSome who _ answers).trans isOpen)
  · rw [matched.report]
    exact Option.or_none

/-- The answers to both requests go in, and the child has taken the first. -/
theorem Child.converse_segments_interleaved :
    let segments : List Segment :=
      [.text "a\nb", .request "Né", .text "hi", .request "", .report "E\n"]
    let bytes := Utf8.encode (segments.map Segment.render).flatten
    let child : Child :=
      .reads fun _ => .writes (bytes.take 12) (.writes ((bytes.drop 12).take 25)
        (.reads fun _ => .writes (bytes.drop 37) (.exits (.exited 1) [])))
    let input : ChildInput := ⟨inputLine "f()", [], some (inputLine "f()"), []⟩
    let answers := PreparedAnswers.ofList ["Bo"]
    let t := (child.converse (.new input)).play PreparedAnswers.answerer answers
    child.opening.send "f()" = .ok input ∧
      List.Forall₂ Segment.Written segments (segments.map Segment.render) ∧
      child.spoken PreparedAnswers.answerer (.new input) answers = bytes ∧
      String.join t.chunks = "a\nbhi" ∧ t.answers = ⟨[], [some "Né", none]⟩ ∧
      t.result.relay.input.sent = Utf8.encode "\"f()\"\n\"Bo\"\n\"\"\n".toList ∧
      t.result.relay.input.taken = [inputLine "f()", inputLine "Bo"] ∧
      t.result.relay.report = some "E\n" := by
  intro segments bytes child input answers t
  have delivered : child.opening.send "f()" = .ok input := rfl
  have written : List.Forall₂ Segment.Written segments (segments.map Segment.render) :=
    Segment.render_written (by simp [segments])
  have spoken : child.spoken PreparedAnswers.answerer (.new input) answers = bytes := by
    subst t answers input child bytes segments
    decide +kernel
  have listens : child.Listens := .reads fun _ => .writes (.writes (.reads fun _ => .writes .exits))
  have sent : inputLine "f()" ++ ["Bo", ""].flatMap inputLine =
      Utf8.encode "\"f()\"\n\"Bo\"\n\"\"\n".toList := by decide +kernel
  have taken : t.result.relay.input.taken = [inputLine "f()", inputLine "Bo"] := by
    subst t answers input child bytes segments
    decide +kernel
  obtain ⟨joined, answered, held, -, -, reported⟩ :=
    Child.converse_segments PreparedAnswers.answerer answers delivered written spoken
  rw [joined, answered, held listens, ← sent, reported]
  exact ⟨delivered, written, spoken, rfl, rfl, rfl, taken, rfl⟩

end Tutor
