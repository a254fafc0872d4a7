import Tutor.Failure.Report

/-!
What a learner is told about a failed run: a friendly message, and suggestions that are chosen by
the labels that the message holds.
-/

namespace Tutor

/-! ## Friendly messages -/

/-- What a learner is told, behind the label, about a failure of this category. -/
def FailureCategory.advice (report : String) : FailureCategory → String
  | .syntaxFault =>
    "Python couldn't parse part of your code. Check missing colons, parentheses, or indentation."
  | .nameFault =>
    match undefinedName report.toList with
    | some name =>
      "'" ++ String.ofList name ++
        "' is not defined. Did you misspell it or forget to assign it?"
    | none => "a name was used before it was defined."
  | .typeFault =>
    "an operation received a value of the wrong type (e.g., adding text to a number)."
  | .indexFault =>
    "tried to access an item outside a list/string range. Check lengths and indices."
  | .indentationFault =>
    "Python relies on indentation to group code. Use consistent spaces (recommended)."
  | .keyFault =>
    "you're trying to access a dictionary key that doesn't exist. Double-check key names."
  | .valueFault =>
    "a function received a value of the right type but wrong format. Example: converting 'abc' " ++
      "to int."
  | .zeroDivision =>
    "you're dividing by zero. Adjust your logic or check inputs before dividing."
  | .attributeFault =>
    "you're trying to access an attribute or method that doesn't exist on this object."
  | .fileNotFound => "Python couldn't locate the file you're trying to open."
  | .unexpected | .genericRuntime => report

/-- The mention of a line in a message, if there is a line. -/
def lineMention : Option Nat → String
  | some n => " (Line " ++ String.ofList (Nat.toDigits 10 n) ++ ")"
  | none => ""

/-- A report read for a learner. -/
structure Diagnosis where
  category : FailureCategory
  friendlyMessage : String
  line : Option Nat
  deriving DecidableEq, Repr

/-- Reads a report; an empty one says nothing. -/
def Diagnosis.ofReport? (report : String) : Option Diagnosis :=
  if report = "" then none
  else
    let category := FailureCategory.ofReport report.toList
    let line := blamedLine report.toList
    some {
      category
      friendlyMessage := category.label ++ lineMention line ++ ": " ++ category.advice report
      line }

/-! ## Suggestions -/

/-- The suggestions for each label, in the order in which they are given. -/
def hintTable : List (String × List String) := [
  ("Syntax error", [
    "Check for missing ':' at the end of control lines (if/for/while/def/class).",
    "Ensure parentheses and quotes are balanced and indents match."]),
  ("Name error", [
    "Check spelling of variable/function names and define them before use.",
    "Make sure you imported the module that provides the name, if needed."]),
  ("Indentation error", [
    "Use 4 spaces per indent level and avoid mixing tabs and spaces."]),
  ("Type error", [
    "Print values and their types with type(x) to diagnose incorrect types."]),
  ("Index error", [
    "Verify list/string lengths and ensure indices are within range."])]

/-- The suggestions for a message. Each label counts for itself, wherever it stands, so a message
may collect the suggestions of several. -/
def hintsFor (message : String) : List String :=
  (hintTable.filter fun entry => Text.occursIn entry.1.toList message.toList).flatMap (·.2)

/-! ## Everything about a failure -/

/-- What is shown about a failure. -/
structure FailureInfo where
  rawMessage : String
  category : FailureCategory
  friendlyMessage : String
  line : Option Nat
  hints : List String
  deriving DecidableEq, Repr

namespace FailureInfo

/-- A failure that the submitted program raised. A report without a word still counts as one. -/
def ofProgramError (report : String) : FailureInfo :=
  match Diagnosis.ofReport? report with
  | some diagnosis => {
      rawMessage := report
      category := diagnosis.category
      friendlyMessage := diagnosis.friendlyMessage
      line := diagnosis.line
      hints := hintsFor diagnosis.friendlyMessage }
  | none => {
      rawMessage := ""
      category := .genericRuntime
      friendlyMessage := FailureCategory.genericRuntime.label ++ ": (no details)"
      line := none
      hints := [] }

/-- A failure to run the submitted program at all. -/
def unexpected (report : String) : FailureInfo := {
  rawMessage := report
  category := .unexpected
  friendlyMessage := "Unexpected failure while running code."
  line := mentionedLine report
  hints := [] }

end FailureInfo

end Tutor
