/-!
The kinds of lines that a beginner's program is made of, and what is said about each.
-/

namespace Tutor

/-- What a line of a program does, as far as its text shows. -/
inductive LineKind
  /-- Nothing but white space. -/
  | blank
  /-- A note to readers. -/
  | comment
  /-- Brings in a module. -/
  | importModule
  /-- Opens a function. -/
  | functionDef
  /-- Opens a class. -/
  | classDef
  /-- Opens a loop over items. -/
  | forLoop
  /-- Opens a loop on a condition. -/
  | whileLoop
  /-- Opens a branch. -/
  | ifBranch
  /-- Opens a further branch. -/
  | elifBranch
  /-- Opens the last branch. -/
  | elseBranch
  /-- Opens a block that is watched for errors. -/
  | tryBlock
  /-- Opens a block for an error. -/
  | exceptBlock
  /-- Opens a block that always runs. -/
  | finallyBlock
  /-- Calls for a range of numbers. -/
  | sequence
  /-- Asks the user. -/
  | input
  /-- Counts items. -/
  | length
  /-- Shows values. -/
  | print
  /-- A list and nothing else. -/
  | listLiteral
  /-- A dictionary and nothing else. -/
  | dictLiteral
  /-- A tuple and nothing else. -/
  | tupleLiteral
  /-- Brackets and a colon. -/
  | collection
  /-- Picks an item. -/
  | indexing
  /-- Calculates. -/
  | arithmetic
  /-- Compares. -/
  | comparison
  /-- Combines truth values. -/
  | booleanLogic
  /-- Fills a gap. -/
  | passWord
  /-- Leaves a loop. -/
  | breakWord
  /-- Goes on with the next round. -/
  | continueWord
  /-- Calls a method. -/
  | methodCall
  /-- Calls a function. -/
  | functionCall
  /-- Leaves a function. -/
  | returnValue
  /-- Leaves a function with a value built by a loop. -/
  | returnLoop
  /-- Names a value. -/
  | assignment
  /-- A name and nothing else. -/
  | variableReference
  /-- Anything else. -/
  | statement
  deriving DecidableEq, Repr

namespace LineKind

/-- The name of a kind in messages. -/
def name : LineKind → String
  | blank => "blank"
  | comment => "comment"
  | importModule => "import"
  | functionDef => "function-def"
  | classDef => "class-def"
  | forLoop => "for-loop"
  | whileLoop => "while-loop"
  | ifBranch => "if"
  | elifBranch => "elif"
  | elseBranch => "else"
  | tryBlock => "try"
  | exceptBlock => "except"
  | finallyBlock => "finally"
  | sequence => "sequence"
  | input => "input"
  | length => "length"
  | print => "print"
  | listLiteral => "list-literal"
  | dictLiteral => "dict-literal"
  | tupleLiteral => "tuple-literal"
  | collection => "collection"
  | indexing => "indexing"
  | arithmetic => "arithmetic"
  | comparison => "comparison"
  | booleanLogic => "boolean-logic"
  | passWord => "pass"
  | breakWord => "break"
  | continueWord => "continue"
  | methodCall => "method-call"
  | functionCall => "function-call"
  | returnValue => "return"
  | returnLoop => "return-in-loop"
  | assignment => "assignment"
  | variableReference => "variable-reference"
  | statement => "statement"

/-- What a reader is told about a line of this kind. -/
def explanation : LineKind → String
  | blank =>
    "Blank line: used to separate logical sections and make the code easier to read."
  | comment =>
    "Comment: a human-readable note ignored by Python. Comments explain why something is done, " ++
      "helping future readers."
  | importModule =>
    "Import statement: brings in a module or specific functions so you can use pre-built tools " ++
      "and utilities."
  | functionDef =>
    "Function definition: declares a named block of reusable logic. Call the function later to " ++
      "perform that task."
  | classDef =>
    "Class definition: creates a blueprint for objects that bundle data (attributes) and " ++
      "behavior (methods)."
  | forLoop =>
    "For-loop: repeats the indented block for each item in a sequence (list, range, etc.), " ++
      "useful for iteration."
  | whileLoop =>
    "While-loop: repeats as long as a condition stays true; be careful to ensure the condition " ++
      "becomes false eventually."
  | ifBranch =>
    "If statement: checks a condition and runs the following block when the condition is true " ++
      "(decision-making)."
  | elifBranch =>
    "Elif (else-if): an additional condition checked if previous if/elif branches were false."
  | elseBranch =>
    "Else: fallback branch that runs when none of the preceding conditions evaluated to true."
  | tryBlock =>
    "Try block: runs the indented code while watching for errors, so they can be handled " ++
      "instead of crashing the program."
  | exceptBlock =>
    "Except block: runs only when the try block raised a matching error, letting you recover " ++
      "gracefully."
  | finallyBlock =>
    "Finally block: always runs after try/except, whether or not an error happened. Good for " ++
      "clean-up work."
  | sequence =>
    "Range: produces a sequence of numbers, most often used to control how many times a loop " ++
      "runs."
  | input =>
    "Input: pauses the program and waits for the user to type something. The answer always " ++
      "arrives as text (a string)."
  | length =>
    "Length: len() counts the items in a list, the characters in a string, or the keys in a " ++
      "dictionary."
  | print =>
    "Print: displays text or values in the console. Useful for results and simple debugging."
  | listLiteral =>
    "List: an ordered collection of values written inside square brackets. Lists can grow, " ++
      "shrink and change."
  | dictLiteral =>
    "Dictionary: a collection of key-value pairs written inside curly braces, used to look " ++
      "values up by name."
  | tupleLiteral =>
    "Tuple: an ordered group of values written inside parentheses. Unlike a list, a tuple " ++
      "cannot be changed."
  | collection =>
    "Collection or mapping: this appears to create or access lists/dicts/tuples used to store " ++
      "multiple values."
  | indexing =>
    "Indexing: picks out one item from a list, string or dictionary using its position or key " ++
      "in square brackets."
  | arithmetic =>
    "Arithmetic: calculates a new value using math operators such as +, -, *, / or %."
  | comparison =>
    "Comparison: checks how two values relate (equal, not equal, bigger, smaller) and produces " ++
      "True or False."
  | booleanLogic =>
    "Boolean logic: combines or flips True/False values with and, or and not."
  | passWord =>
    "Pass: a placeholder that does nothing. Python needs something in a block, so pass fills " ++
      "the gap."
  | breakWord =>
    "Break: stops the nearest loop immediately and continues after it."
  | continueWord =>
    "Continue: skips the rest of this loop round and jumps to the next iteration."
  | methodCall =>
    "Method call: asks an object to perform one of its own actions (for example list.append or " ++
      "text.upper)."
  | functionCall =>
    "Function call: executes a function (built-in, library, or user-defined) and may return a " ++
      "value."
  | returnValue =>
    "Return: exits a function and optionally provides a value back to the caller."
  | returnLoop =>
    "Return: exits a function and provides a value back to the caller. The value is built by " ++
      "looping over items on this same line."
  | assignment =>
    "Assignment: stores a value into a variable so you can reuse it later in the program."
  | variableReference =>
    "Variable reference: uses the value currently stored under this name."
  | statement =>
    "Python statement: performs an operation (expression, access, or call) that contributes to " ++
      "the program's behavior."

end LineKind

end Tutor
