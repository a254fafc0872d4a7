import Tutor.Explain.Record
import Tutor.Proofs.Text.Lines

/-!
The records of a program, line by line.

A program is cut at its line feeds, and the record of a line is told by the line and its place alone
(`explainSource_eq`). So a program that is put together from two has the records of the first and,
further down, those of the second; and a line that is changed changes its own record and no other
(`explainSource_joined`).
-/

namespace Tutor

namespace ExplainedLine

/-- The record of a line as it stands in a program, with its number. -/
def ofLine (number : Nat) (line : List Char) : ExplainedLine :=
  SourceLine.explained ⟨number, String.ofList (Text.dropReturn line)⟩

/-- The same record, so many lines further down. -/
def below (count : Nat) (line : ExplainedLine) : ExplainedLine :=
  { line with number := count + line.number }

/-- The records of lines that stand behind so many others. -/
def ofLines (before : Nat) (lines : List (List Char)) : List ExplainedLine :=
  lines.mapIdx fun place line => ofLine (before + (place + 1)) line

/-- The lines are numbered on from those before. -/
theorem ofLines_eq_map (before : Nat) (lines : List (List Char)) :
    ofLines before lines =
      (lines.zipIdx (before + 1)).map fun (line, number) => ofLine number line := by
  rw [ofLines, List.mapIdx_eq_zipIdx_map, List.zipIdx_eq_map_add (i := before + 1), List.map_map]
  apply List.map_congr_left
  intro (line, place) _
  change ofLine (before + (place + 1)) line = ofLine (before + 1 + place) line
  congr 1
  omega

theorem ofLines_length (before : Nat) (lines : List (List Char)) :
    (ofLines before lines).length = lines.length :=
  List.length_mapIdx

theorem ofLines_append (before : Nat) (lines more : List (List Char)) :
    ofLines before (lines ++ more) =
      ofLines before lines ++ ofLines (before + lines.length) more := by
  rw [ofLines, List.mapIdx_append, ofLines, ofLines]
  congr 2
  funext place line
  congr 1
  omega

/-- Lines that are moved down keep all of their records but the numbers. -/
theorem ofLines_below (before count : Nat) (lines : List (List Char)) :
    (ofLines before lines).map (below count) = ofLines (count + before) lines := by
  rw [ofLines, ofLines, List.mapIdx_eq_zipIdx_map, List.mapIdx_eq_zipIdx_map, List.map_map]
  apply List.map_congr_left
  intro (line, place) _
  exact congrArg (ofLine · line) (Nat.add_assoc count before (place + 1)).symm

theorem ofLines_number (before : Nat) (lines : List (List Char)) :
    (ofLines before lines).map (·.number) = List.range' (before + 1) lines.length := by
  rw [ofLines_eq_map, List.map_map, ← List.zipIdx_map_snd]
  rfl

theorem ofLines_set (before place : Nat) (line : List Char) (lines : List (List Char)) :
    ofLines before (lines.set place line) =
      (ofLines before lines).set place (ofLine (before + (place + 1)) line) :=
  List.mapIdx_set

end ExplainedLine

open ExplainedLine

/-- A program is explained line by line. -/
theorem explainSource_eq (source : String) :
    explainSource source = ofLines 0 (source.toList.splitOn '\n') := by
  rw [explainSource, SourceLine.ofSource, Text.lines, Text.splitAtEach_eq_splitOn, ofLines_eq_map,
    List.map_map]
  rfl

/-- Lines that are put together with line feeds between them are found again. -/
theorem explainSource_intercalate {lines : List (List Char)} (some : lines ≠ [])
    (clean : ∀ line ∈ lines, '\n' ∉ line) :
    explainSource (String.ofList (['\n'].intercalate lines)) = ofLines 0 lines := by
  rw [explainSource_eq, String.toList_ofList, List.splitOn_intercalate '\n' clean some]

/-- The program with one line in place of another has one record in place of another. -/
theorem explainSource_set (source : String) (place : Nat) {line : List Char} (clean : '\n' ∉ line) :
    explainSource (String.ofList
        (['\n'].intercalate ((source.toList.splitOn '\n').set place line))) =
      (explainSource source).set place (ofLine (place + 1) line) := by
  have some : (source.toList.splitOn '\n').set place line ≠ [] := by
    simp [List.splitOn_ne_nil]
  have cleanLines : ∀ other ∈ (source.toList.splitOn '\n').set place line, '\n' ∉ other := by
    intro other member
    rcases List.mem_or_eq_of_mem_set member with before | rfl
    · exact Text.not_mem_of_mem_splitOn before
    · exact clean
  rw [explainSource_intercalate some cleanLines, ofLines_set, ← explainSource_eq, Nat.zero_add]

/-- A program that is put together from two with a line feed between them has the records of the
first and below them those of the second, also where a carriage return stands at the seam. There is
a record for each line, numbered from 1, and it is told by the line and its number; so a line that
is changed changes no other record. -/
theorem explainSource_joined (a b : String) :
    explainSource (a ++ "\n" ++ b) =
        explainSource a ++ (explainSource b).map (below (explainSource a).length) ∧
      ∀ source : String,
        let lines := source.toList.splitOn '\n'
        explainSource source = lines.mapIdx (fun place line => ofLine (place + 1) line) ∧
          (explainSource source).length = source.toList.count '\n' + 1 ∧
          (explainSource source).map (·.number) = List.range' 1 (explainSource source).length ∧
          ∀ place line, '\n' ∉ line →
            explainSource (String.ofList (['\n'].intercalate (lines.set place line))) =
              (explainSource source).set place (ofLine (place + 1) line) := by
  constructor
  · have text : (a ++ "\n" ++ b).toList = a.toList ++ '\n' :: b.toList := by simp
    rw [explainSource_eq, explainSource_eq a, explainSource_eq b, text,
      List.splitOn_append_cons_self, ofLines_append, ofLines_below, ofLines_length, Nat.zero_add,
      Nat.add_zero]
  · intro source lines
    refine ⟨?_, ?_, ?_, fun place line clean => explainSource_set source place clean⟩
    · rw [explainSource_eq, ofLines]
      simp only [Nat.zero_add]
      rfl
    · rw [explainSource_eq, ofLines_length, Text.length_splitOn]
    · rw [explainSource_eq, ofLines_number, ofLines_length]

/-- A carriage return in front of the seam, and a line in place of the empty one behind it. -/
theorem explainSource_joined_return :
    let first : ExplainedLine := ⟨⟨1, "x = 1"⟩, LineKind.assignment.explanation⟩
    '\n' ∉ "pass".toList ∧
      explainSource ("x = 1\r" ++ "\n" ++ "") =
        [first, ⟨⟨2, ""⟩, LineKind.blank.explanation⟩] ∧
      explainSource (String.ofList
          (['\n'].intercalate (("x = 1\r\n".toList.splitOn '\n').set 1 "pass".toList))) =
        [first, ⟨⟨2, "pass"⟩, LineKind.passWord.explanation⟩] := by
  intro first
  have clean : '\n' ∉ "pass".toList := by decide
  obtain ⟨joined, records⟩ := explainSource_joined "x = 1\r" ""
  have edited := (records "x = 1\r\n").2.2.2 1 "pass".toList clean
  exact ⟨clean, joined.trans (by decide +kernel), edited.trans (by decide +kernel)⟩

end Tutor
