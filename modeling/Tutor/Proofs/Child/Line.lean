import Mathlib.Data.List.Forall2
import Tutor.Proofs.Child.Passage
import Tutor.Proofs.Json.Grammar
import Tutor.Proofs.Text.Blank
import Tutor.Proofs.Text.Find

/-!
What a line of a child's output is taken for.

`ChildLine.Means` says it of every text: the leftmost marker of a report makes a line a report, else
the leftmost marker of a request makes it a request, and a line without either is output
(`ChildLine.ofText_iff`). What a line reports, and what is shown of it, follow from this.
-/

namespace Tutor

/-! ## Meanings -/

/-- A line carries a report. -/
def HasReport (line : List Char) : Prop := reportMarker.toList <:+: line

/-- The meaning of a line, by its leftmost marker of a report or else of a request. -/
inductive ChildLine.Means (line : List Char) : ChildLine → Prop
  | report {before payload : List Char} :
    Text.FirstMark reportMarker.toList line before payload →
    Means line (.report (String.ofList before) (reportOf (Text.trimEnd payload)))
  | request {before payload : List Char} : ¬ HasReport line →
    Text.FirstMark requestMarker.toList line before payload →
    Means line (.request (String.ofList before) (promptOf (Text.trimEnd payload)))
  | output : ¬ HasReport line → ¬ requestMarker.toList <:+: line →
    Means line (.output (String.ofList line))

theorem ChildLine.means_ofText (line : List Char) : Means line (ofText line) := by
  unfold ofText
  split
  · rename_i found
    exact .report (Text.splitAround_eq_some_iff.1 found)
  · rename_i noReport
    rw [Text.splitAround_eq_none_iff] at noReport
    split
    · rename_i found
      exact .request noReport (Text.splitAround_eq_some_iff.1 found)
    · rename_i noRequest
      exact .output noReport (Text.splitAround_eq_none_iff.1 noRequest)

/-- A line has one meaning, the one that a relay reads. -/
theorem ChildLine.ofText_iff {line : List Char} {meaning : ChildLine} :
    ofText line = meaning ↔ Means line meaning := by
  constructor
  · rintro rfl
    exact means_ofText line
  · intro means
    rw [ofText]
    cases means with
    | report first => rw [Text.splitAround_eq_some_iff.2 first]
    | request noReport first =>
      rw [Text.splitAround_eq_none_iff.2 noReport]
      simp only [Text.splitAround_eq_some_iff.2 first]
    | output noReport noRequest =>
      rw [Text.splitAround_eq_none_iff.2 noReport]
      simp only [Text.splitAround_eq_none_iff.2 noRequest]

/-! ## Reports -/

/-- A line reports a text: behind the leftmost marker and without the blanks at the end, it is a
JSON string for the text, or no JSON string and the text itself. -/
inductive Reports (line : List Char) : String → Prop
  | string {before payload stem : List Char} {s : String} :
    Text.FirstMark reportMarker.toList line before payload → Text.StrippedEnd payload stem →
    Json.HoldsString stem s → Reports line s
  | plain {before payload stem : List Char} :
    Text.FirstMark reportMarker.toList line before payload → Text.StrippedEnd payload stem →
    (∀ s, ¬ Json.HoldsString stem s) → Reports line (String.ofList stem)

theorem Text.FirstMark.occurs {mark text before behind : List Char}
    (first : FirstMark mark text before behind) : mark <:+: text :=
  ⟨before, behind, by rw [first.split, List.append_assoc]⟩

namespace ChildLine

/-- The report that a line carries. -/
def report? : ChildLine → Option String
  | .report _ text => some text
  | .request .. | .output _ => none

theorem reportOf_eq_iff {stem : List Char} {text : String} :
    reportOf stem = text ↔ Json.HoldsString stem text ∨
      (∀ s, ¬ Json.HoldsString stem s) ∧ text = String.ofList stem := by
  simp only [← Json.readString?_iff, reportOf]
  cases Json.readString? stem <;> simp [eq_comm]

/-- What is reported is what stands behind the leftmost marker. -/
theorem reports_iff {line : List Char} {text : String} :
    Reports line text ↔ ∃ before payload,
      Text.FirstMark reportMarker.toList line before payload ∧
        reportOf (Text.trimEnd payload) = text := by
  constructor
  · intro reports
    cases reports with
    | string first stripped isString =>
      rw [Text.strippedEnd_iff] at stripped
      exact ⟨_, _, first, reportOf_eq_iff.2 (.inl (stripped ▸ isString))⟩
    | plain first stripped none =>
      rw [Text.strippedEnd_iff] at stripped
      exact ⟨_, _, first, reportOf_eq_iff.2 (.inr ⟨stripped ▸ none, congrArg _ stripped⟩)⟩
  · rintro ⟨before, payload, first, same⟩
    have stripped := Text.strippedEnd_iff.2 (Eq.refl (Text.trimEnd payload))
    rcases reportOf_eq_iff.1 same with isString | ⟨none, rfl⟩
    · exact .string first stripped isString
    · exact .plain first stripped none

/-- A line is taken for a report exactly where it is one. -/
theorem report?_iff {line : List Char} {text : String} :
    (ofText line).report? = some text ↔ Reports line text := by
  rw [reports_iff]
  constructor
  · intro reported
    generalize same : ofText line = meaning at reported
    rw [ofText_iff] at same
    cases same with
    | report first => exact ⟨_, _, first, Option.some_inj.1 reported⟩
    | request => cases reported
    | output => cases reported
  · rintro ⟨before, payload, first, rfl⟩
    rw [ofText_iff.2 (.report first)]
    rfl

theorem report?_eq_none_iff {line : List Char} :
    (ofText line).report? = none ↔ ¬ HasReport line := by
  generalize same : ofText line = meaning
  rw [ofText_iff] at same
  cases same with
  | report first => exact iff_of_false nofun (not_not_intro first.occurs)
  | request noReport => exact iff_of_true rfl noReport
  | output noReport => exact iff_of_true rfl noReport

end ChildLine

/-! ## Shown text -/

namespace ChildLine

/-- What is shown of a line. -/
def shown : ChildLine → List String
  | .output chunk => [chunk]
  | .request before _ | .report before _ => chunkBefore before

end ChildLine

end Tutor
