/-!
The categories of failures that a learner meets, and how each is named and described.
-/

namespace Tutor

/-- What kind of thing went wrong. -/
inductive FailureCategory
  | syntaxFault
  | nameFault
  | typeFault
  | indexFault
  | indentationFault
  | keyFault
  | valueFault
  | zeroDivision
  | attributeFault
  | fileNotFound
  /-- The program could not be run at all. -/
  | unexpected
  /-- The program failed in a way that has no category of its own. -/
  | genericRuntime
  deriving DecidableEq, Repr

namespace FailureCategory

/-- The name of a category in messages. -/
def name : FailureCategory → String
  | syntaxFault => "syntax"
  | nameFault => "name"
  | typeFault => "type"
  | indexFault => "index"
  | indentationFault => "indentation"
  | keyFault => "key"
  | valueFault => "value"
  | zeroDivision => "zero-division"
  | attributeFault => "attribute"
  | fileNotFound => "file-not-found"
  | unexpected => "unexpected"
  | genericRuntime => "generic-runtime"

/-- The words that open what a learner is told about a failure of this category. -/
def label : FailureCategory → String
  | syntaxFault => "Syntax error"
  | nameFault => "Name error"
  | typeFault => "Type error"
  | indexFault => "Index error"
  | indentationFault => "Indentation error"
  | keyFault => "Key error"
  | valueFault => "Value error"
  | zeroDivision => "Zero division error"
  | attributeFault => "Attribute error"
  | fileNotFound => "File not found"
  | unexpected => "Unexpected failure"
  | genericRuntime => "Runtime error"

end FailureCategory

end Tutor
