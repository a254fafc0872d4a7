/-!
Splitting a command line into words.

Spaces, tabs and line feeds separate words. Quotation marks and backslashes take away the meaning
of the characters behind them: between single quotes nothing has one, between double quotes only
the dollar sign, the backquote, the double quote, the backslash and the line feed can be escaped.
A backslash and a line feed vanish. A number sign where a word could begin opens a comment up to
the end of the line.
-/

namespace Tutor

/-- Where a splitter stands; a word that has begun is held in reverse. -/
inductive Splitter
  /-- Between two words. -/
  | between
  | comment
  /-- Within a word and outside quotes. -/
  | word (before : List Char)
  /-- Behind a backslash outside quotes. -/
  | escaped (before : List Char)
  | single (before : List Char)
  | double (before : List Char)
  /-- Behind a backslash between double quotes. -/
  | doubleEscaped (before : List Char)
  deriving DecidableEq, Repr

namespace Splitter

/-- Whether a character separates words. -/
def isSeparator (c : Char) : Bool := c == ' ' || c == '\t' || c == '\n'

/-- Reads one character of a word outside quotes: the word if that ends it, and the new state. -/
def stepWord (before : List Char) (c : Char) : Option (List Char) × Splitter :=
  if c = '"' then (none, double before)
  else if c = '\'' then (none, single before)
  else if c = '\\' then (none, escaped before)
  else if isSeparator c then (some before.reverse, between)
  else (none, word (c :: before))

/-- Reads one character: the word that it ends, if any, and the new state. -/
def step : Splitter → Char → Option (List Char) × Splitter
  | between, c =>
    if isSeparator c then (none, between)
    else if c = '#' then (none, comment)
    else stepWord [] c
  | comment, c => (none, if c = '\n' then between else comment)
  | word before, c => stepWord before c
  | escaped before, c => (none, word (if c = '\n' then before else c :: before))
  | single before, c => (none, if c = '\'' then word before else single (c :: before))
  | double before, c =>
    (none,
      if c = '"' then word before
      else if c = '\\' then doubleEscaped before
      else double (c :: before))
  | doubleEscaped before, c =>
    (none,
      if c = '\n' then double before
      else if c = '$' ∨ c = '\x60' ∨ c = '"' ∨ c = '\\' then double (c :: before)
      else double (c :: '\\' :: before))

/-- What the end of the text means: no word, a last word, or a fault. -/
def finish : Splitter → Option (List (List Char))
  | between | comment => some []
  | word before => some [before.reverse]
  | escaped _ | single _ | double _ | doubleEscaped _ => none

/-- Splits from some state on; `before` holds in reverse the words that have ended. -/
def run (before : List (List Char)) : Splitter → List Char → Option (List (List Char))
  | state, [] => state.finish.map (before.reverse ++ ·)
  | state, c :: text =>
    match step state c with
    | (some ended, state) => run (ended :: before) state text
    | (none, state) => run before state text

end Splitter

/-- The words of a command line; none if a quote is not closed or a backslash stands at the end. -/
def splitWords (line : String) : Option (List String) :=
  (Splitter.run [] .between line.toList).map (·.map String.ofList)

end Tutor
