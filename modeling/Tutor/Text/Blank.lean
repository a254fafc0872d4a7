/-!
White space, and text without it at its ends.

A blank is a character with the Unicode property White_Space; carriage returns and line feeds
are blanks too.
-/

namespace Tutor.Text

/-- Whether a character has the property White_Space. -/
def isBlank (c : Char) : Bool :=
  let n := c.toNat
  (0x9 ≤ n && n ≤ 0xD) || n == 0x20 || n == 0x85 || n == 0xA0 || n == 0x1680 ||
  (0x2000 ≤ n && n ≤ 0x200A) || n == 0x2028 || n == 0x2029 || n == 0x202F || n == 0x205F ||
  n == 0x3000

/-- Drops the longest run at the end of a list whose members all pass the test. -/
def dropEndWhile {α : Type} (test : α → Bool) (xs : List α) : List α :=
  (xs.reverse.dropWhile test).reverse

/-- Text without the blanks at its start. -/
def trimStart (text : List Char) : List Char := text.dropWhile isBlank

/-- Text without the blanks at its end. -/
def trimEnd (text : List Char) : List Char := dropEndWhile isBlank text

/-- Text without the blanks at its two ends. -/
def trim (text : List Char) : List Char := trimEnd (trimStart text)

end Tutor.Text
