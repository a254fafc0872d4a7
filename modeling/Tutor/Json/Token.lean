import Tutor.Json.Numeral

/-!
The words of a JSON text: punctuation, the three named values, numbers, and strings.

`Token.render` writes a word, `Token.scan?` takes a text apart into its words; blanks between
words carry nothing. A string is written with escapes for the quotation mark, the backslash and
the control characters, and may be read with escapes for any character.
-/

namespace Tutor.Json

/-- A word of a JSON text. -/
inductive Token
  | leftBrace
  | rightBrace
  | leftBracket
  | rightBracket
  | comma
  | colon
  | null
  | bool (b : Bool)
  | number (n : Number)
  | string (s : List Char)

/-! ## Strings -/

/-- The character that a letter behind a backslash stands for. -/
def unescape : Char → Option Char
  | '"' => some '"'
  | '\\' => some '\\'
  | '/' => some '/'
  | 'b' => some '\x08'
  | 'f' => some '\x0c'
  | 'n' => some '\n'
  | 'r' => some '\r'
  | 't' => some '\t'
  | _ => none

/-- A hexadecimal digit, small letters for the digits above nine. -/
def hexDigit (n : Nat) : Char := Nat.digitChar n

/-- A character as it stands within a string. -/
def escape (c : Char) : List Char :=
  if c == '"' then ['\\', '"']
  else if c == '\\' then ['\\', '\\']
  else if c == '\x08' then ['\\', 'b']
  else if c == '\x0c' then ['\\', 'f']
  else if c == '\n' then ['\\', 'n']
  else if c == '\r' then ['\\', 'r']
  else if c == '\t' then ['\\', 't']
  else if c.toNat < 0x20 then
    ['\\', 'u', '0', '0', hexDigit (c.toNat / 16), hexDigit (c.toNat % 16)]
  else [c]

/-- A string in quotation marks. -/
def renderText (s : List Char) : List Char := '"' :: s.flatMap escape ++ ['"']

/-- Puts a 16-bit unit behind a text that may end in the first half of a surrogate pair: the new
first half, if one is open, and the text in reverse. -/
def joinUnit (half : Option Nat) (before : List Char) (unit : Nat) :
    Option (Option Nat × List Char) :=
  let isFirst := 0xD800 ≤ unit && unit ≤ 0xDBFF
  let isSecond := 0xDC00 ≤ unit && unit ≤ 0xDFFF
  match half with
  | none =>
    if isFirst then some (some unit, before)
    else if isSecond then none
    else some (none, Char.ofNat unit :: before)
  | some first =>
    if isSecond then
      some (none, Char.ofNat (0x10000 + (first - 0xD800) * 0x400 + (unit - 0xDC00)) :: before)
    else none

/-- Reads a string up to its closing quotation mark, from behind the opening one; gives back what
follows. `half` is the first half of a surrogate pair that waits for the second, and `before`
holds in reverse what has been read. -/
def scanText (half : Option Nat) (before : List Char) :
    List Char → Option (List Char × List Char)
  | [] => none
  | '\\' :: 'u' :: a :: b :: c :: d :: rest =>
    match (Text.readHex [a, b, c, d]).bind (joinUnit half before) with
    | some (half, before) => scanText half before rest
    | none => none
  | '\\' :: letter :: rest =>
    match half, unescape letter with
    | none, some c => scanText none (c :: before) rest
    | _, _ => none
  | c :: rest =>
    if half.isSome then none
    else if c == '"' then some (before.reverse, rest)
    else if c.toNat < 0x20 || c == '\\' then none
    else scanText none (c :: before) rest

/-- What follows a string is shorter than the string with it. -/
theorem scanText_length_lt {half : Option Nat} {before text s rest : List Char}
    (h : scanText half before text = some (s, rest)) : rest.length < text.length := by
  fun_induction scanText half before text with
  | case2 half before a b c d rest half' before' _ ih =>
    have := ih h
    simp only [List.length_cons]
    omega
  | _ => grind

/-! ## Words -/

/-- Whether a character separates words without being one. -/
def isGap (c : Char) : Bool := c == ' ' || c == '\t' || c == '\n' || c == '\r'

/-- Whether a character belongs to numbers. -/
def isNumeralChar (c : Char) : Bool :=
  c.isDigit || c == '-' || c == '+' || c == '.' || c == 'e' || c == 'E'

/-- A mark of punctuation. -/
def punctuation : Char → Option Token
  | '\x7b' => some .leftBrace
  | '\x7d' => some .rightBrace
  | '[' => some .leftBracket
  | ']' => some .rightBracket
  | ',' => some .comma
  | ':' => some .colon
  | _ => none

/-- The value that a run of letters names. -/
def namedValue (letters : List Char) : Option Token :=
  if letters = "null".toList then some .null
  else if letters = "true".toList then some (.bool true)
  else if letters = "false".toList then some (.bool false)
  else none

/-- The word that a text begins with, and what follows. -/
def nextToken (c : Char) (text : List Char) : Option (Token × List Char) :=
  match punctuation c with
  | some token => some (token, text)
  | none =>
    if c == '"' then
      (scanText none [] text).map fun (s, rest) => (.string s, rest)
    else if c.isDigit || c == '-' then
      (Number.read? (c :: text.takeWhile isNumeralChar)).map fun n =>
        (.number n, text.dropWhile isNumeralChar)
    else
      (namedValue (c :: text.takeWhile Char.isAlpha)).map fun token =>
        (token, text.dropWhile Char.isAlpha)

/-- A word takes at least one character. -/
theorem nextToken_length_le {c : Char} {text rest : List Char} {token : Token}
    (h : nextToken c text = some (token, rest)) : rest.length ≤ text.length := by
  have dropped (test : Char → Bool) : (text.dropWhile test).length ≤ text.length :=
    (List.dropWhile_sublist test).length_le
  unfold nextToken at h
  split at h
  · grind
  · split at h
    · obtain ⟨⟨s, r⟩, scanned, same⟩ := Option.map_eq_some_iff.1 h
      have := scanText_length_lt scanned
      grind
    · split at h <;> obtain ⟨_, _, same⟩ := Option.map_eq_some_iff.1 h <;> cases same <;>
        exact dropped _

/-- Takes a text apart into words; `before` holds in reverse those that have been taken. -/
def Token.scanFrom (before : List Token) : List Char → Option (List Token)
  | [] => some before.reverse
  | c :: text =>
    if isGap c then scanFrom before text
    else
      match h : nextToken c text with
      | some (token, rest) =>
        have := nextToken_length_le h
        scanFrom (token :: before) rest
      | none => none
termination_by text => text.length

/-- The words of a text, if it consists of words and gaps. -/
def Token.scan? (text : List Char) : Option (List Token) := scanFrom [] text

/-- The text of a word. -/
def Token.render : Token → List Char
  | leftBrace => ['\x7b']
  | rightBrace => ['\x7d']
  | leftBracket => ['[']
  | rightBracket => [']']
  | comma => [',']
  | colon => [':']
  | null => "null".toList
  | bool true => "true".toList
  | bool false => "false".toList
  | number n => n.render
  | string s => renderText s

end Tutor.Json
