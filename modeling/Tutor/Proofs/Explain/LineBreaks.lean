import Tutor.Proofs.Explain.Records
import Tutor.Proofs.Run.Answers

/-!
Lines with either kind of break between them.

Two lines are separated by a line feed, and a carriage return may stand before it. Whatever
separates them, a program that is joined from lines is cut into just these lines, so nothing of what
is told of it depends on its breaks (`SourceLine.ofSource_joinLines`).
-/

namespace Tutor

/-- What separates a line from the next. -/
inductive LineBreak
  | feed
  | returnAndFeed
  deriving DecidableEq, Repr

/-- The characters of a break. -/
def LineBreak.text : LineBreak → String
  | feed => "\n"
  | returnAndFeed => "\r\n"

/-- A line and, behind it, further ones with the breaks in front of them. -/
def joinLines (first : String) : List (LineBreak × String) → String
  | [] => first
  | (lineBreak, line) :: rest => first ++ lineBreak.text ++ joinLines line rest

/-! ## One line -/

theorem Text.dropReturn_concat (line : List Char) : dropReturn (line ++ ['\r']) = line := by
  rw [dropReturn, List.getLast?_concat, if_pos rfl, List.dropLast_concat]

theorem Typable.dropReturn {line : String} (typable : Typable line) :
    Text.dropReturn line.toList = line.toList :=
  if_neg typable.noReturn

/-- A line with a break behind it is the first of the text, up to a carriage return. -/
theorem lines_break {line : String} (typable : Typable line) (lineBreak : LineBreak)
    (text : List Char) :
    (Text.lines (line.toList ++ lineBreak.text.toList ++ text)).map Text.dropReturn =
      line.toList :: (Text.lines text).map Text.dropReturn := by
  rw [Text.lines, Text.splitAtEach_eq_splitOn, Text.lines, Text.splitAtEach_eq_splitOn]
  cases lineBreak with
  | feed =>
    have parts : line.toList ++ LineBreak.feed.text.toList ++ text =
        line.toList ++ '\n' :: text := by
      simp [LineBreak.text]
    rw [parts, List.splitOn_append_cons_self_of_not_mem typable.oneLine, List.map_cons,
      typable.dropReturn]
  | returnAndFeed =>
    have parts : line.toList ++ LineBreak.returnAndFeed.text.toList ++ text =
        (line.toList ++ ['\r']) ++ '\n' :: text := by
      simp [LineBreak.text]
    have clean : '\n' ∉ line.toList ++ ['\r'] := by simp [typable.oneLine]
    rw [parts, List.splitOn_append_cons_self_of_not_mem clean, List.map_cons,
      Text.dropReturn_concat]

/-- Joined lines are found again, whatever separates them. -/
theorem lines_joinLines {first : String} {rest : List (LineBreak × String)}
    (typable : ∀ line ∈ first :: rest.map Prod.snd, Typable line) :
    (Text.lines (joinLines first rest).toList).map Text.dropReturn =
      (first :: rest.map Prod.snd).map String.toList := by
  induction rest generalizing first with
  | nil =>
    have clean := typable first List.mem_cons_self
    rw [joinLines, Text.lines, Text.splitAtEach_eq_splitOn,
      List.splitOn_eq_singleton clean.oneLine, List.map_singleton, clean.dropReturn]
    rfl
  | cons next rest ih =>
    obtain ⟨lineBreak, line⟩ := next
    obtain ⟨clean, others⟩ := List.forall_mem_cons.1 typable
    rw [joinLines, String.toList_append, String.toList_append, lines_break clean,
      ih others]
    rfl

/-! ## The whole program -/

namespace SourceLine

/-- Lines with their numbers, counted from 1. -/
def numbered (lines : List String) : List SourceLine :=
  (lines.zipIdx 1).map fun (line, number) => ⟨number, line⟩

theorem numbered_text (lines : List String) : (numbered lines).map (·.text) = lines := by
  rw [numbered, List.map_map]
  exact List.zipIdx_map_fst 1 lines

theorem numbered_number (lines : List String) :
    (numbered lines).map (·.number) = List.range' 1 lines.length := by
  rw [numbered, List.map_map]
  exact List.zipIdx_map_snd 1 lines

theorem ofSource_eq_numbered (source : String) :
    ofSource source =
      numbered (((Text.lines source.toList).map Text.dropReturn).map String.ofList) := by
  rw [ofSource, numbered, List.zipIdx_map, List.zipIdx_map, List.map_map, List.map_map]
  rfl

/-- A program that is joined from lines, which hold no line feed and do not end with a carriage
return, is cut into exactly these lines, numbered from 1, whichever break stands behind each but the
last. So a program with the same lines and other breaks has the same lines, kinds and
explanations. -/
theorem ofSource_joinLines {first : String} {rest : List (LineBreak × String)}
    (typable : ∀ line ∈ first :: rest.map Prod.snd, Typable line) :
    let lines := first :: rest.map Prod.snd
    let source := joinLines first rest
    ofSource source = numbered lines ∧
      (ofSource source).map (·.text) = lines ∧
      (ofSource source).map (·.number) = List.range' 1 lines.length ∧
      ∀ others : List (LineBreak × String), others.map Prod.snd = rest.map Prod.snd →
        let converted := joinLines first others
        ofSource converted = ofSource source ∧
          (ofSource converted).map (LineKind.ofLine ·.text) = lines.map LineKind.ofLine ∧
          explainSource converted = explainSource source := by
  intro lines source
  have found {others : List (LineBreak × String)} (same : others.map Prod.snd = rest.map Prod.snd) :
      ofSource (joinLines first others) = numbered lines := by
    rw [ofSource_eq_numbered, lines_joinLines (same ▸ typable), same, List.map_map]
    simp only [Function.comp_def, String.ofList_toList, List.map_id']
    rfl
  have whole : ofSource source = numbered lines := found rfl
  refine ⟨whole, ?_, ?_, fun others same => ⟨?_, ?_, ?_⟩⟩
  · rw [whole, numbered_text]
  · rw [whole, numbered_number]
  · rw [whole, found same]
  · calc (ofSource (joinLines first others)).map (LineKind.ofLine ·.text)
        = ((numbered lines).map (·.text)).map LineKind.ofLine := by
          rw [found same, List.map_map]
          rfl
      _ = lines.map LineKind.ofLine := by rw [numbered_text]
  · rw [explainSource, found same, explainSource, whole]

/-- Both breaks, an empty line, one with a carriage return inside, and an empty one at the end. -/
theorem ofSource_joinLines_mixed :
    let rest : List (LineBreak × String) :=
      [(.returnAndFeed, ""), (.feed, "a\rb"), (.returnAndFeed, "")]
    let others : List (LineBreak × String) := [(.feed, ""), (.feed, "a\rb"), (.feed, "")]
    (∀ line ∈ "x = 1" :: rest.map Prod.snd, Typable line) ∧
      others.map Prod.snd = rest.map Prod.snd ∧
      joinLines "x = 1" rest = "x = 1\r\n\na\rb\r\n" ∧
      joinLines "x = 1" others = "x = 1\n\na\rb\n" ∧
      ofSource "x = 1\r\n\na\rb\r\n" = [⟨1, "x = 1"⟩, ⟨2, ""⟩, ⟨3, "a\rb"⟩, ⟨4, ""⟩] ∧
      explainSource "x = 1\n\na\rb\n" = explainSource "x = 1\r\n\na\rb\r\n" := by
  intro rest others
  have typable : ∀ line ∈ "x = 1" :: rest.map Prod.snd, Typable line := by
    have clean : ∀ line ∈ "x = 1" :: rest.map Prod.snd,
        '\n' ∉ line.toList ∧ line.toList.getLast? ≠ some '\r' := by decide
    exact fun line member => ⟨(clean line member).1, (clean line member).2⟩
  obtain ⟨whole, -, -, same⟩ := ofSource_joinLines typable
  exact ⟨typable, rfl, rfl, rfl, whole, (same others rfl).2.2⟩

end SourceLine

end Tutor
