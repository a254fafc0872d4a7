import Mathlib.Data.List.Infix
import Tutor.Proofs.Child.Line
import Tutor.Proofs.Text.Lossy
import Tutor.Run.Answers

/-!
Output without a marker.

A relay decodes each line by itself. What it writes is nevertheless the lossy reading of the whole
stream, since a line feed ends a damaged character just as the end of the stream does
(`Utf8.readLossy_allLines`): no replacement character is merged, split, lost or added at the end of
a line (`Child.converse_unmarked`).
-/

namespace Tutor

variable {ι : Type}

/-- Neither marker occurs in a text. -/
def Unmarked (text : List Char) : Prop :=
  ∀ marker ∈ [requestMarker, reportMarker], ¬ marker.toList <:+: text

/-- A part of a text without a marker has none. -/
theorem Unmarked.of_infix {part text : List Char} (unmarked : Unmarked text)
    (isPart : part <:+: text) : Unmarked part :=
  fun marker member occurs => unmarked marker member (occurs.trans isPart)

theorem Unmarked.ofText {line : List Char} (unmarked : Unmarked line) :
    ChildLine.ofText line = .output (String.ofList line) := by
  have noReport := unmarked reportMarker (by simp)
  have noRequest := unmarked requestMarker (by simp)
  exact ChildLine.ofText_iff.2 (.output noReport noRequest)

/-- Lines of output are written as they are, and nothing else happens. -/
theorem passage_output (who : Answerer ι) (chunks : List String) (answers : ι) :
    passage who (chunks.map .output) answers = ⟨chunks, [], none, answers⟩ := by
  induction chunks with
  | nil => rfl
  | cons chunk chunks ih => rw [List.map_cons, passage, ih]

/-- Without a marker in the whole stream each line is output, lossily read. -/
theorem ofLine_allLines {bytes : List UInt8} (unmarked : Unmarked (Utf8.readLossy bytes)) :
    (Text.allLines bytes).map ChildLine.ofLine =
      ((Text.allLines bytes).map fun line => String.ofList (Utf8.readLossy line)).map .output := by
  rw [List.map_map]
  refine List.map_congr_left fun line member => ?_
  have isPart : Utf8.readLossy line <:+: Utf8.readLossy bytes := by
    obtain ⟨before, behind, split⟩ := List.append_of_mem member
    rw [← Utf8.readLossy_allLines bytes, split, List.flatMap_append, List.flatMap_cons,
      ← List.append_assoc]
    exact List.infix_append _ _ _
  exact (unmarked.of_infix isPart).ofText

/-- Whatever bytes a child writes, in whatever pieces, valid or not, and with a last line that is
ended or not: if no marker stands in their lossy reading, then this reading is what is written, one
U+FFFD for each maximal subpart that is no character. Nothing is asked and nothing is reported. -/
theorem Child.converse_unmarked (who : Answerer ι) (answers : ι) (input : ChildInput) (child : Child)
    (unmarked : Unmarked (Utf8.readLossy (child.spoken who (.new input) answers))) :
    let bytes := child.spoken who (.new input) answers
    let t := (child.converse (.new input)).play who answers
    String.join t.chunks = String.ofList (Utf8.readLossy bytes) ∧
      Utf8.Lossy bytes (String.join t.chunks).toList ∧
      t.answers = answers ∧ t.result.relay.report = none := by
  intro bytes t
  have clean : 10 ∉ (Relay.new input).line := List.not_mem_nil
  obtain ⟨matched, -⟩ := child.converse_play who clean answers
  have lines : (Text.allLines ((Relay.new input).line ++
      (child.leaves who (.new input) answers).output)).map ChildLine.ofLine =
        ((Text.allLines bytes).map fun line => String.ofList (Utf8.readLossy line)).map .output :=
    ofLine_allLines unmarked
  rw [lines, passage_output] at matched
  have written : String.join t.chunks = String.ofList (Utf8.readLossy bytes) := by
    rw [← String.toList_inj, String.toList_join, matched.chunks, List.flatMap_map]
    simp only [String.toList_ofList]
    exact Utf8.readLossy_allLines bytes
  refine ⟨written, ?_, matched.answers, matched.report⟩
  rw [written, String.toList_ofList, Utf8.lossy_iff]

theorem Child.converse_unmarked_damaged :
    let bytes : List UInt8 := [0x61, 0xE2, 0x82, 0x0A, 0xED, 0xA0, 0x80, 0xC3, 0xA9, 0xF0, 0x9F]
    let child : Child :=
      .writes (bytes.take 2) (.writes ((bytes.drop 2).take 6)
        (.closes (.writes (bytes.drop 8) (.exits (.exited 0) []))))
    let relay := Relay.new .new
    let t := (child.converse relay).play PreparedAnswers.answerer (.ofList ["Bo"])
    child.spoken PreparedAnswers.answerer relay (.ofList ["Bo"]) = bytes ∧
      Unmarked (Utf8.readLossy bytes) ∧
      String.join t.chunks = "a\uFFFD\n\uFFFD\uFFFD\uFFFDé\uFFFD" ∧
      Utf8.Lossy bytes (String.join t.chunks).toList ∧
      t.answers = .ofList ["Bo"] ∧ t.result.relay.report = none := by
  intro bytes child relay t
  have spoken : child.spoken PreparedAnswers.answerer relay (.ofList ["Bo"]) = bytes := by
    subst t relay child bytes
    decide +kernel
  have reading : Utf8.readLossy bytes = "a\uFFFD\n\uFFFD\uFFFD\uFFFDé\uFFFD".toList := by
    subst t relay child bytes
    decide +kernel
  have unmarked : Unmarked (Utf8.readLossy bytes) := by
    rw [reading]
    unfold Unmarked
    decide
  obtain ⟨written, lossy, answered, reported⟩ :=
    Child.converse_unmarked PreparedAnswers.answerer (.ofList ["Bo"]) .new child
      (by rw [spoken]; exact unmarked)
  rw [spoken] at written lossy
  rw [reading, String.ofList_toList] at written
  exact ⟨spoken, unmarked, written, lossy, answered, reported⟩

end Tutor
