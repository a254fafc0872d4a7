import Tutor.Failure.Advice

/-!
The category of a failure.

A failure that a program raised is read from its report, or from the lack of one. Whatever the
report says, its category is never the one of a program that could not be run
(`FailureInfo.ofProgramError_category_ne`), so the two kinds of failures are told apart by the
category alone.
-/

namespace Tutor

theorem FailureCategory.ofReport_ne_unexpected (report : List Char) :
    ofReport report ≠ .unexpected := by
  have markers_ne : ∀ entry ∈ markers, entry.2 ≠ .unexpected := by decide
  unfold ofReport
  split
  · rename_i entry found
    exact markers_ne entry (List.mem_of_find?_eq_some found)
  · exact nofun

theorem FailureCategory.advice_nameFault (report : String) :
    nameFault.advice report =
      match undefinedName report.toList with
      | some name =>
        "'" ++ String.ofList name ++ "' is not defined. Did you misspell it or forget to assign it?"
      | none => "a name was used before it was defined." := rfl

namespace FailureInfo

/-- The message about a report: the label of the category, the line if there is one, and advice. -/
def messageOn (report : String) : String :=
  let category := FailureCategory.ofReport report.toList
  category.label ++ lineMention (blamedLine report.toList) ++ ": " ++ category.advice report

theorem messageOn_eq (report : String) :
    messageOn report =
      (FailureCategory.ofReport report.toList).label ++ lineMention (blamedLine report.toList) ++
        ": " ++ (FailureCategory.ofReport report.toList).advice report := rfl

theorem ofReport?_of_ne {report : String} (filled : report ≠ "") :
    Diagnosis.ofReport? report = some {
      category := .ofReport report.toList
      friendlyMessage := messageOn report
      line := blamedLine report.toList } := if_neg filled

theorem ofProgramError_of_ne {report : String} (filled : report ≠ "") :
    ofProgramError report = {
      rawMessage := report
      category := .ofReport report.toList
      friendlyMessage := messageOn report
      line := blamedLine report.toList
      hints := hintsFor (messageOn report) } := by
  rw [ofProgramError, ofReport?_of_ne filled]

theorem ofProgramError_empty :
    ofProgramError "" = {
      rawMessage := ""
      category := .genericRuntime
      friendlyMessage := "Runtime error: (no details)"
      line := none
      hints := [] } := by
  decide +kernel

/-- No report makes a failure of the program look like a failure to run it. -/
theorem ofProgramError_category_ne (report : String) :
    (ofProgramError report).category ≠ .unexpected := by
  by_cases empty : report = ""
  · rw [empty, ofProgramError_empty]
    exact nofun
  · rw [ofProgramError_of_ne empty]
    exact FailureCategory.ofReport_ne_unexpected _

theorem unexpected_category (report : String) : (unexpected report).category = .unexpected := rfl

end FailureInfo

end Tutor
