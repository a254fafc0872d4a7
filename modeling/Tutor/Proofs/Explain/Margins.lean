import Mathlib.Logic.Relation
import Tutor.Proofs.Explain.Records
import Tutor.Proofs.Text.Blank

/-!
White space at the ends of lines.

White space is added to a line, at its start and at its end, or taken away there, and so on
(`Respaced`). As no such character is a line feed, the lines stay the same up to the white space
around them, and any two programs with such lines can be made of each other (`respaced_iff`). A
record is told by its line without that white space, so only the texts of the records change
(`explainSource_respaced`).
-/

namespace Tutor

/-! ## One line -/

namespace Text

/-- Between these two parts a line has a place of its own: a line feed or an end of the text is right
before it, and so right behind it. -/
structure Encloses (above below : List Char) : Prop where
  start : above = [] ∨ above.getLast? = some '\n'
  stop : below = [] ∨ below.head? = some '\n'

/-- The lines above and below do not depend on the line between. -/
theorem Encloses.exists_splitOn {above below : List Char} (encloses : Encloses above below) :
    ∃ earlier later, ∀ line, '\n' ∉ line →
      (above ++ line ++ below).splitOn '\n' = earlier ++ line :: later := by
  obtain ⟨later, alone⟩ : ∃ later, ∀ line, '\n' ∉ line →
      (line ++ below).splitOn '\n' = line :: later := by
    rcases encloses.stop with empty | first
    · subst empty
      refine ⟨[], fun line clean => ?_⟩
      rw [List.append_nil, List.splitOn_eq_singleton clean]
    · obtain ⟨rest, rfl⟩ := List.head?_eq_some_iff.mp first
      refine ⟨rest.splitOn '\n', fun line clean => ?_⟩
      exact List.splitOn_append_cons_self_of_not_mem clean rest
  rcases encloses.start with empty | last
  · subst empty
    exact ⟨[], later, alone⟩
  · obtain ⟨front, rfl⟩ := List.getLast?_eq_some_iff.mp last
    refine ⟨front.splitOn '\n', later, fun line clean => ?_⟩
    rw [List.append_assoc, List.append_assoc, List.singleton_append,
      List.splitOn_append_cons_self, alone line clean]

theorem exists_trim (line : List Char) : ∃ before behind, line = before ++ trim line ++ behind ∧
    ∀ c ∈ before ++ behind, isBlank c = true :=
  (stripped_iff.mpr rfl).1

theorem trim_trim (line : List Char) : trim (trim line) = trim line := by
  obtain ⟨before, behind, split, blank⟩ := exists_trim line
  calc trim (trim line)
      = trim (before ++ trim line ++ behind) := (trim_append blank (trim line)).symm
    _ = trim line := by rw [← split]

theorem trim_dropReturn (line : List Char) : trim (dropReturn line) = trim line := by
  rw [dropReturn]
  split
  · rename_i last
    obtain ⟨front, rfl⟩ := List.getLast?_eq_some_iff.mp last
    have blank : ∀ c ∈ [] ++ ['\r'], isBlank c = true := List.forall_mem_singleton.mpr rfl
    rw [List.dropLast_concat]
    exact (trim_append blank front).symm
  · rfl

/-- A text that ends with no white space does not end with a carriage return. -/
theorem dropReturn_trim (line : List Char) : dropReturn (trim line) = trim line := by
  refine if_neg fun last => ?_
  have filled := (stripped_iff.mpr (Eq.refl (trim line))).2 '\r' (.inr last)
  revert filled
  decide

/-- The lines of a text without the white space around them. -/
def trimmedLines (text : List Char) : List (List Char) := (text.splitOn '\n').map trim

end Text

/-- The record with the white space around its text taken away. -/
def ExplainedLine.trimmed (line : ExplainedLine) : ExplainedLine :=
  { line with text := String.ofList (Text.trim line.text.toList) }

namespace ExplainedLine

/-- White space around a line changes nothing in its record but the text. -/
theorem ofLine_trim (number : Nat) (line : List Char) :
    ofLine number (Text.trim line) = (ofLine number line).trimmed := by
  have kind (text : List Char) :
      LineKind.ofLine (String.ofList text) = .byRules Rule.table (Text.trim text) := by
    rw [LineKind.ofLine, String.toList_ofList]
  simp only [ofLine, trimmed, SourceLine.explained, kind, Text.dropReturn_trim, Text.trim_trim,
    Text.trim_dropReturn, String.toList_ofList]

theorem ofLines_map_trim (before : Nat) (lines : List (List Char)) :
    ofLines before (lines.map Text.trim) = (ofLines before lines).map trimmed := by
  rw [ofLines_eq_map, ofLines_eq_map, List.zipIdx_map, List.map_map, List.map_map]
  exact List.map_congr_left fun (line, number) _ => ofLine_trim number line

end ExplainedLine

theorem explainSource_trimmed (source : String) :
    (explainSource source).map ExplainedLine.trimmed =
      ExplainedLine.ofLines 0 (Text.trimmedLines source.toList) := by
  rw [explainSource_eq, Text.trimmedLines, ExplainedLine.ofLines_map_trim]

/-! ## Other white space -/

/-- White space other than line feeds is added to one line of a text, before it and behind it. -/
inductive Widens : List Char → List Char → Prop
  | line {above line below before behind : List Char} :
    Text.Encloses above below → '\n' ∉ line →
    (∀ c ∈ before ++ behind, Text.isBlank c = true ∧ c ≠ '\n') →
    Widens (above ++ line ++ below) (above ++ (before ++ line ++ behind) ++ below)

/-- One program is made of the other: any number of times white space is added to a line, or taken
away from where it could have been added. -/
def Respaced (source other : String) : Prop :=
  Relation.EqvGen Widens source.toList other.toList

theorem Widens.trimmedLines {text wider : List Char} (widens : Widens text wider) :
    Text.trimmedLines wider = Text.trimmedLines text := by
  obtain @⟨above, line, below, before, behind, encloses, clean, blank⟩ := widens
  obtain ⟨earlier, later, lines⟩ := encloses.exists_splitOn
  have cleanWide : '\n' ∉ before ++ line ++ behind := by
    intro member
    rcases List.mem_append.mp member with front | last
    · rcases List.mem_append.mp front with first | inside
      · exact (blank _ (List.mem_append_left behind first)).2 rfl
      · exact clean inside
    · exact (blank _ (List.mem_append_right before last)).2 rfl
  have same : Text.trim (before ++ line ++ behind) = Text.trim line :=
    Text.trim_append (fun c member => (blank c member).1) line
  rw [Text.trimmedLines, Text.trimmedLines, lines _ clean, lines _ cleanWide, List.map_append,
    List.map_append, List.map_cons, List.map_cons, same]

/-- However often white space comes and goes, the lines stay the same up to the white space around
them. -/
theorem trimmedLines_of_eqvGen {text other : List Char}
    (joined : Relation.EqvGen Widens text other) :
    Text.trimmedLines text = Text.trimmedLines other := by
  induction joined with
  | rel _ _ widens => exact widens.trimmedLines.symm
  | refl _ => rfl
  | symm _ _ _ ih => exact ih.symm
  | trans _ _ _ _ _ first second => exact first.trans second

/-- The white space of a line can be added to the line without it. -/
theorem widens_trim {above line below : List Char} (encloses : Text.Encloses above below)
    (clean : '\n' ∉ line) :
    Widens (above ++ Text.trim line ++ below) (above ++ line ++ below) := by
  obtain ⟨before, behind, split, blank⟩ := Text.exists_trim line
  have inside : ∀ c ∈ before ++ behind, c ∈ line := by
    intro c member
    rw [split]
    rcases List.mem_append.mp member with first | last
    · exact List.mem_append_left _ (List.mem_append_left _ first)
    · exact List.mem_append_right _ last
  have cleanTrim : '\n' ∉ Text.trim line := by
    intro member
    rw [split] at clean
    exact clean (List.mem_append_left _ (List.mem_append_right _ member))
  have blankInside : ∀ c ∈ before ++ behind, Text.isBlank c = true ∧ c ≠ '\n' := by
    intro c member
    refine ⟨blank c member, ?_⟩
    rintro rfl
    exact clean (inside _ member)
  have widens := Widens.line encloses cleanTrim blankInside
  rwa [← split] at widens

/-- Line by line, from the first to the last, a text gets its white space back. -/
theorem eqvGen_trimmedLines {above : List Char} (start : above = [] ∨ above.getLast? = some '\n')
    (text : List Char) :
    Relation.EqvGen Widens (above ++ ['\n'].intercalate (Text.trimmedLines text))
      (above ++ text) := by
  induction text using Text.lineInduction '\n' generalizing above with
  | rest line clean =>
    have widens := widens_trim ⟨start, .inl rfl⟩ clean
    rw [List.append_nil, List.append_nil] at widens
    rw [Text.trimmedLines, List.splitOn_eq_singleton clean, List.map_singleton,
      List.intercalate_singleton]
    exact .rel _ _ widens
  | line line text clean ih =>
    have filled : Text.trimmedLines text ≠ [] := by simp [Text.trimmedLines, List.splitOn_ne_nil]
    have lines : Text.trimmedLines (line ++ '\n' :: text) =
        Text.trim line :: Text.trimmedLines text := by
      rw [Text.trimmedLines, List.splitOn_append_cons_self_of_not_mem clean]
      rfl
    have encloses : Text.Encloses above
        ('\n' :: ['\n'].intercalate (Text.trimmedLines text)) := ⟨start, .inr rfl⟩
    have first := widens_trim encloses clean
    have others := @ih (above ++ line ++ ['\n']) (.inr List.getLast?_concat)
    rw [lines, List.intercalate_cons_of_ne_nil filled]
    simp only [List.append_assoc, List.singleton_append] at first others ⊢
    exact .trans _ _ _ (.rel _ _ first) others

/-- Each of two programs can be made of the other just if they have the same lines, up to the white
space around each. -/
theorem respaced_iff {source other : String} :
    Respaced source other ↔
      Text.trimmedLines source.toList = Text.trimmedLines other.toList := by
  constructor
  · exact trimmedLines_of_eqvGen
  · intro same
    have back := eqvGen_trimmedLines (.inl rfl) source.toList
    have on := eqvGen_trimmedLines (.inl rfl) other.toList
    rw [same] at back
    exact .trans _ _ _ (.symm _ _ back) on

/-- Whatever white space is added or taken away at the ends of lines, there are as many records,
with the same numbers and the same explanations, and they differ in their texts alone, by white
space around them. -/
theorem explainSource_respaced {source other : String} (respaced : Respaced source other) :
    (explainSource other).length = (explainSource source).length ∧
      (explainSource other).map (·.number) = (explainSource source).map (·.number) ∧
      (explainSource other).map (·.explanation) = (explainSource source).map (·.explanation) ∧
      (explainSource other).map ExplainedLine.trimmed =
        (explainSource source).map ExplainedLine.trimmed := by
  have same : (explainSource other).map ExplainedLine.trimmed =
      (explainSource source).map ExplainedLine.trimmed := by
    rw [explainSource_trimmed, explainSource_trimmed, respaced_iff.mp respaced]
  have numbers := congrArg (List.map (·.number)) same
  have explanations := congrArg (List.map (·.explanation)) same
  rw [List.map_map, List.map_map] at numbers explanations
  refine ⟨?_, numbers, explanations, same⟩
  simpa using congrArg List.length same

/-- Blanks of many sorts, carriage returns that end no line, and an indentation that is gone. -/
theorem explainSource_respaced_mixed :
    let source := "if x:\n    break\n"
    let other := "\u00a0if x:\u000b\t\r\nbreak\u2028\r\r\n\u3000\u0085"
    Respaced source other ∧ (explainSource other).map (·.number) = [1, 2, 3] ∧
      (explainSource other).map (·.explanation) =
        [LineKind.ifBranch.explanation, LineKind.breakWord.explanation,
          LineKind.blank.explanation] := by
  intro source other
  have respaced : Respaced source other := respaced_iff.mpr (by decide +kernel)
  obtain ⟨-, numbers, explanations, -⟩ := explainSource_respaced respaced
  exact ⟨respaced, numbers.trans (by decide +kernel), explanations.trans (by decide +kernel)⟩

end Tutor
