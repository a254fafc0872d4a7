import Tutor.Failure.Basic
import Tutor.Text.Digit
import Tutor.Text.Find

/-!
Reading a raw report of an error: its category, the line it blames, and the name it misses.

A report may mention several exceptions; the first marker of `FailureCategory.markers` that occurs
anywhere in it decides. The line is the one named right behind the first mention of the submitted
program.
-/

namespace Tutor

/-! ## Categories -/

/-- The names of exceptions in the order in which they are looked for, with their categories. -/
def FailureCategory.markers : List (String × FailureCategory) := [
  ("SyntaxError", .syntaxFault),
  ("NameError", .nameFault),
  ("TypeError", .typeFault),
  ("IndexError", .indexFault),
  ("IndentationError", .indentationFault),
  ("KeyError", .keyFault),
  ("ValueError", .valueFault),
  ("ZeroDivisionError", .zeroDivision),
  ("AttributeError", .attributeFault),
  ("FileNotFoundError", .fileNotFound)]

/-- The category of a report. -/
def FailureCategory.ofReport (report : List Char) : FailureCategory :=
  match markers.find? fun entry => Text.occursIn entry.1.toList report with
  | some entry => entry.2
  | none => .genericRuntime

/-! ## Line numbers -/

/-- The digits, of any script, right behind the leftmost place where `lead` has a digit behind
it. -/
def digitsBehind (lead : String) : List Char → Option (List Char) :=
  Text.leftmost fun text => do
    let rest ← Text.dropLead lead.toList text
    let digits := rest.takeWhile Text.isDecimalDigit
    if digits.isEmpty then none else some digits

/-- The line number behind the leftmost place where `lead` has a digit behind it. No later place
is tried if this one spells no number in ASCII, or too large a number. -/
def lineBehind (lead : String) (text : List Char) : Option Nat :=
  (digitsBehind lead text).bind (Text.readNumber Text.wordBound)

/-- The line that a report blames in the submitted program. -/
def blamedLine (report : List Char) : Option Nat := lineBehind "File \"<string>\", line " report

/-- A line that a text of unknown shape mentions. -/
def mentionedLine (text : String) : Option Nat := lineBehind "line " text.toList

/-! ## Names -/

/-- The name that a report calls undefined: in the leftmost complete mention, the shortest text
between the words around it. -/
def undefinedName : List Char → Option (List Char) :=
  Text.leftmost fun text => do
    let rest ← Text.dropLead "NameError: name '".toList text
    Text.shortestUpTo "' is not defined".toList [] rest

end Tutor
