import Tutor.Explain.LineKind
import Tutor.Pattern.Search
import Tutor.Text.Find

/-!
The ordered rules that tell the kind of a line.

A rule looks at the text of a line without the blanks at its ends. The first rule that applies
decides, so the order of `Rule.table` is part of the meaning: a loop over a range is a loop, and
a list that is compared with another is an arithmetic line if it also adds.
-/

namespace Tutor

/-- A kind of line with the test that a line of this kind passes. -/
structure Rule where
  kind : LineKind
  applies : List Char → Bool

namespace Rule

open Pattern

/-! ## Patterns of the rules -/

/-- A keyword at the start of the text, blanks, and whatever else. -/
def opening (keyword : String) : Pattern := inOrder [textStart, literal keyword, someBlanks]

/-- A keyword at the start of the text, and a colon. -/
def openingAlone (keyword : String) : Pattern :=
  inOrder [textStart, literal keyword, blanks, literal ":"]

/-- A call of the function of this name. -/
def callOf (name : String) : Pattern := inOrder [wordEdge, literal name, blanks, literal "("]

/-- An import and the beginning of a module's name. -/
def importPattern : Pattern :=
  inOrder [textStart, oneOfTexts "from" ["import"], someBlanks, someWord]

/-- The head of a function up to its parameters. -/
def functionPattern : Pattern :=
  inOrder [textStart, literal "def", someBlanks, someWord, blanks, literal "("]

/-- The head of a class. -/
def classPattern : Pattern := inOrder [textStart, literal "class", someBlanks, someWord]

/-- The word that opens a block for an error. -/
def exceptPattern : Pattern := inOrder [textStart, literal "except", wordEdge]

/-- A call of the printing function at the start of the text. -/
def printPattern : Pattern := inOrder [textStart, literal "print", blanks, literal "("]

/-- Something within a pair of brackets, on one line. -/
def filled (opened closed : String) : Pattern :=
  inOrder [literal opened, .one (.allBut '\n'), withinLine, literal closed]

/-- Something within a pair of brackets of any sort. -/
def groupPattern : Pattern :=
  .either (.either (filled "[" "]") (filled "\x7b" "\x7d")) (filled "(" ")")

/-- A name and an index in square brackets. -/
def indexPattern : Pattern :=
  inOrder [someWord, blanks, literal "[", .many (.one (.allBut ']')), literal "]"]

/-- The word that opens a loop over items. -/
def forPattern : Pattern := inOrder [wordEdge, literal "for", wordEdge]

/-- A word that opens a loop. -/
def loopPattern : Pattern := inOrder [wordEdge, oneOfTexts "for" ["while"], wordEdge]

/-- An arithmetic sign. -/
def arithmeticPattern : Pattern := oneOf "+-*/%"

/-- A comparing sign. -/
def comparisonPattern : Pattern := oneOfTexts "==" ["!=", "<=", ">=", "<", ">"]

/-- A word that combines truth values. -/
def booleanPattern : Pattern := inOrder [wordEdge, oneOfTexts "and" ["or", "not"], wordEdge]

/-- A call of a method by its name. -/
def methodPattern : Pattern := inOrder [someWord, literal ".", someWord, blanks, literal "("]

/-- A call of a function with its arguments on one line. -/
def callPattern : Pattern := inOrder [someWord, blanks, literal "(", withinLine, literal ")"]

/-- The word that leaves a function. -/
def returnPattern : Pattern := inOrder [wordEdge, literal "return", wordEdge]

/-- A name from the start of the text to its end. -/
def namePattern : Pattern :=
  inOrder [textStart, .one .nameStart, .many (.one .word), textEnd]

/-! ## Further tests -/

/-- The text begins and ends with this pair of brackets. -/
def isWhole (opened closed : Char) (text : List Char) : Bool :=
  2 ≤ text.length && text.head? == some opened && text.getLast? == some closed

/-- The text is this word and nothing else. -/
def isWord (word : String) (text : List Char) : Bool := text == word.toList

/-! ## The table -/

/-- The rule of a kind whose lines hold an occurrence of a pattern. -/
def ofPattern (kind : LineKind) (p : Pattern) : Rule := ⟨kind, p.occursIn⟩

/-- The rules in their order. -/
def table : List Rule := [
  ⟨.blank, List.isEmpty⟩,
  ⟨.comment, fun text => text.head? == some '#'⟩,
  ofPattern .importModule importPattern,
  ofPattern .functionDef functionPattern,
  ofPattern .classDef classPattern,
  ofPattern .forLoop (opening "for"),
  ofPattern .whileLoop (opening "while"),
  ofPattern .ifBranch (opening "if"),
  ofPattern .elifBranch (opening "elif"),
  ofPattern .elseBranch (openingAlone "else"),
  ofPattern .exceptBlock exceptPattern,
  ofPattern .tryBlock (openingAlone "try"),
  ofPattern .finallyBlock (openingAlone "finally"),
  ofPattern .sequence (callOf "range"),
  ofPattern .input (callOf "input"),
  ofPattern .length (callOf "len"),
  ofPattern .print printPattern,
  ⟨.listLiteral, isWhole '[' ']'⟩,
  ⟨.dictLiteral, isWhole '\x7b' '\x7d'⟩,
  ⟨.tupleLiteral, isWhole '(' ')'⟩,
  ⟨.collection, fun text => groupPattern.occursIn text && text.contains ':'⟩,
  ⟨.indexing, fun text => indexPattern.occursIn text && !forPattern.occursIn text⟩,
  ⟨.arithmetic, fun text =>
    arithmeticPattern.occursIn text && !"print".toList.isPrefixOf text⟩,
  ofPattern .comparison comparisonPattern,
  ofPattern .booleanLogic booleanPattern,
  ⟨.passWord, isWord "pass"⟩,
  ⟨.breakWord, isWord "break"⟩,
  ⟨.continueWord, isWord "continue"⟩,
  ofPattern .methodCall methodPattern,
  ofPattern .functionCall callPattern,
  ⟨.returnLoop, fun text => returnPattern.occursIn text && loopPattern.occursIn text⟩,
  ofPattern .returnValue returnPattern,
  ⟨.assignment, fun text => text.contains '=' && !Text.occursIn "==".toList text⟩,
  ofPattern .variableReference namePattern]

end Rule

/-- The kind that the first applying rule of a list tells; a line that no rule covers is a
statement. -/
def LineKind.byRules (rules : List Rule) (text : List Char) : LineKind :=
  match rules.find? (·.applies text) with
  | some rule => rule.kind
  | none => .statement

/-- The kind of a line. Blanks at its ends do not matter. -/
def LineKind.ofLine (line : String) : LineKind :=
  .byRules Rule.table (Text.trim line.toList)

end Tutor
