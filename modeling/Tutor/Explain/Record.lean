import Tutor.Explain.Rule
import Tutor.Text.Lines

/-!
A whole program explained: one record for each of its lines, in order.
-/

namespace Tutor

/-- A line of a program with its number, counted from 1. -/
structure SourceLine where
  number : Nat
  text : String
  deriving DecidableEq, Repr

/-- A line with what a reader is told about it. -/
structure ExplainedLine extends SourceLine where
  explanation : String
  deriving DecidableEq, Repr

/-- The lines of a program. Each line feed ends a line and begins another, so text that ends with
one has an empty last line; a carriage return at the end of a line does not belong to its text. -/
def SourceLine.ofSource (source : String) : List SourceLine :=
  ((Text.lines source.toList).zipIdx 1).map fun (line, number) =>
    ⟨number, String.ofList (Text.dropReturn line)⟩

/-- The line with the explanation of its kind. -/
def SourceLine.explained (line : SourceLine) : ExplainedLine :=
  { line with explanation := (LineKind.ofLine line.text).explanation }

/-- The explained lines of a program. -/
def explainSource (source : String) : List ExplainedLine :=
  (SourceLine.ofSource source).map SourceLine.explained

end Tutor
