import Tutor.Text.Digit

/-!
The part of TOML that settings need: lines that give a key a string, blank lines and comments.

Keys are bare or quoted. Strings have the four forms of TOML: basic and literal, on one line or
in blocks. Whatever else a TOML file may hold, such as tables, dotted keys and other types of
values, is refused here, as no setting has that form.
-/

namespace Tutor.Toml

/-- A gap within a line. -/
def isGap (c : Char) : Bool := c == ' ' || c == '\t'

/-- Whether a character may stand for itself: all but control characters, save the tab. -/
def isPlain (c : Char) : Bool := c == '\t' || (0x20 ≤ c.toNat && c.toNat ≠ 0x7F)

/-- Whether a character may stand in a key without quotes. -/
def isBareKey (c : Char) : Bool := c.isAlphanum || c == '_' || c == '-'

/-! ## Strings -/

/-- The character with a code point in hexadecimal digits. -/
def charOfHex (digits : List Char) : Option Char := do
  let n ← Text.readHex digits
  if h : n.isValidChar then some (Char.ofNatAux n h) else none

/-- The character that a letter behind a backslash stands for. -/
def unescape : Char → Option Char
  | 'b' => some '\x08'
  | 't' => some '\t'
  | 'n' => some '\n'
  | 'f' => some '\x0c'
  | 'r' => some '\r'
  | '"' => some '"'
  | '\\' => some '\\'
  | _ => none

/-- Reads a basic string from behind its opening mark; gives back the text behind its end. -/
def scanBasic (before : List Char) : List Char → Option (List Char × List Char)
  | [] => none
  | '"' :: rest => some (before.reverse, rest)
  | '\\' :: 'u' :: a :: b :: c :: d :: rest =>
    match charOfHex [a, b, c, d] with
    | some x => scanBasic (x :: before) rest
    | none => none
  | '\\' :: 'U' :: a :: b :: c :: d :: e :: f :: g :: h :: rest =>
    match charOfHex [a, b, c, d, e, f, g, h] with
    | some x => scanBasic (x :: before) rest
    | none => none
  | '\\' :: letter :: rest =>
    match unescape letter with
    | some x => scanBasic (x :: before) rest
    | none => none
  | c :: rest => if c ≠ '\\' ∧ isPlain c then scanBasic (c :: before) rest else none

/-- Reads a literal string from behind its opening mark. -/
def scanLiteral (before : List Char) : List Char → Option (List Char × List Char)
  | [] => none
  | '\'' :: rest => some (before.reverse, rest)
  | c :: rest => if isPlain c then scanLiteral (c :: before) rest else none

/-- Takes up to two quotation marks off the front, behind three that close a block: they belong
to its text. -/
def closeBlock (mark : Char) (before : List Char) (rest : List Char) : List Char × List Char :=
  let own := (rest.take 2).takeWhile (· == mark)
  ((own ++ before).reverse, rest.drop own.length)

/-- Whether a backslash at the end of a line has been read in a block, which joins lines. -/
inductive Fold
  | off
  /-- The line feed must still come. -/
  | opened
  /-- Gaps and line feeds are being passed over. -/
  | active
  deriving DecidableEq

/-- Reads a basic block from behind its opening marks. -/
def scanBasicBlock (fold : Fold) (before : List Char) :
    List Char → Option (List Char × List Char)
  | [] => none
  | '\r' :: '\n' :: rest =>
    if fold = .off then scanBasicBlock .off ('\n' :: before) rest
    else scanBasicBlock .active before rest
  | '\n' :: rest =>
    if fold = .off then scanBasicBlock .off ('\n' :: before) rest
    else scanBasicBlock .active before rest
  | c :: rest =>
    if fold ≠ .off ∧ isGap c then scanBasicBlock fold before rest
    else if fold = .opened then none
    else match c, rest with
      | '"', '"' :: '"' :: rest => some (closeBlock '"' before rest)
      | '\\', 'u' :: a :: b :: c :: d :: rest =>
        match charOfHex [a, b, c, d] with
        | some x => scanBasicBlock .off (x :: before) rest
        | none => none
      | '\\', 'U' :: a :: b :: c :: d :: e :: f :: g :: h :: rest =>
        match charOfHex [a, b, c, d, e, f, g, h] with
        | some x => scanBasicBlock .off (x :: before) rest
        | none => none
      | '\\', ' ' :: rest | '\\', '\t' :: rest => scanBasicBlock .opened before rest
      | '\\', '\n' :: rest | '\\', '\r' :: '\n' :: rest => scanBasicBlock .active before rest
      | '\\', letter :: rest =>
        match unescape letter with
        | some x => scanBasicBlock .off (x :: before) rest
        | none => none
      | c, rest => if c ≠ '\\' ∧ isPlain c then scanBasicBlock .off (c :: before) rest else none

/-- Reads a literal block from behind its opening marks. -/
def scanLiteralBlock (before : List Char) : List Char → Option (List Char × List Char)
  | [] => none
  | '\'' :: '\'' :: '\'' :: rest => some (closeBlock '\'' before rest)
  | '\r' :: '\n' :: rest => scanLiteralBlock ('\n' :: before) rest
  | c :: rest =>
    if c = '\n' ∨ isPlain c then scanLiteralBlock (c :: before) rest else none

/-- A block does not begin with the line feed right behind its opening marks. -/
def dropFirstFeed : List Char → List Char
  | '\n' :: rest => rest
  | '\r' :: '\n' :: rest => rest
  | text => text

/-- Reads a string of any form. -/
def scanString : List Char → Option (List Char × List Char)
  | '"' :: '"' :: '"' :: rest => scanBasicBlock .off [] (dropFirstFeed rest)
  | '"' :: rest => scanBasic [] rest
  | '\'' :: '\'' :: '\'' :: rest => scanLiteralBlock [] (dropFirstFeed rest)
  | '\'' :: rest => scanLiteral [] rest
  | _ => none

/-! ## Lines -/

/-- Reads a key. -/
def scanKey : List Char → Option (List Char × List Char)
  | '"' :: rest => scanBasic [] rest
  | '\'' :: rest => scanLiteral [] rest
  | text =>
    let key := text.takeWhile isBareKey
    if key.isEmpty then none else some (key, text.dropWhile isBareKey)

/-- Passes over what may follow on a line: a gap, a comment, and the end of the line. -/
def endLine (text : List Char) : Option (List Char) :=
  let rest := match text.dropWhile isGap with
    | '#' :: comment => comment.dropWhile isPlain
    | rest => rest
  match rest with
  | [] => some []
  | '\n' :: rest => some rest
  | '\r' :: '\n' :: rest => some rest
  | _ => none

/-- Passes over an equals sign between gaps. -/
def scanEquals (text : List Char) : Option (List Char) :=
  match text.dropWhile isGap with
  | '=' :: rest => some (rest.dropWhile isGap)
  | _ => none

/-- Reads a line: the key and the string that it gives it, if any, and what follows the line. -/
def scanLine (text : List Char) : Option (Option (String × String) × List Char) :=
  match endLine text with
  | some rest => some (none, rest)
  | none => do
    let (key, text) ← scanKey (text.dropWhile isGap)
    let text ← scanEquals text
    let (value, text) ← scanString text
    let rest ← endLine text
    return (some (String.ofList key, String.ofList value), rest)

/-- Reads up to `bound` lines. -/
def scanLines (bound : Nat) (text : List Char) : Option (List (String × String)) :=
  match bound, text with
  | _, [] => some []
  | 0, _ => none
  | bound + 1, text => do
    let (entry, rest) ← scanLine text
    let entries ← scanLines bound rest
    return entry.toList ++ entries

/-- The keys of a file with their strings, in order. A byte order mark may come first. A text has
no more lines than line feeds and one. -/
def read? (text : List Char) : Option (List (String × String)) :=
  let text := match text with
    | '\uFEFF' :: rest => rest
    | text => text
  scanLines (text.count '\n' + 1) text

end Tutor.Toml
