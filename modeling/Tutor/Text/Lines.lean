/-!
Lines of a text. A line feed separates two lines, so a text has one line more than line feeds,
and the empty text has one empty line.
-/

namespace Tutor.Text

/-- Splits a list at each member equal to `separator`; the separators belong to no piece. -/
def splitAtEach {α : Type} [BEq α] (separator : α) (xs : List α) : List (List α) :=
  xs.foldr
    (fun x pieces =>
      if x == separator then [] :: pieces
      else match pieces with
        | [] => [[x]]
        | piece :: others => (x :: piece) :: others)
    [[]]

/-- The lines of a text, without their line feeds. -/
def lines (text : List Char) : List (List Char) := splitAtEach '\n' text

/-- A line without the one carriage return that may end it. -/
def dropReturn (line : List Char) : List Char :=
  if line.getLast? = some '\r' then line.dropLast else line

/-- Takes the first line off some bytes, together with its line feed if it has one. -/
def takeLine (bytes : List UInt8) : List UInt8 × List UInt8 :=
  match bytes.dropWhile (· != 10) with
  | [] => (bytes, [])
  | feed :: rest => (bytes.takeWhile (· != 10) ++ [feed], rest)

/-- A line takes at least one byte off bytes that are not all gone. -/
theorem takeLine_length_lt {bytes : List UInt8} (nonempty : bytes ≠ []) :
    (takeLine bytes).2.length < bytes.length := by
  have whole := congrArg List.length
    (List.takeWhile_append_dropWhile (p := (· != 10)) (l := bytes))
  have := List.length_pos_iff.2 nonempty
  unfold takeLine
  split <;> simp_all
  omega

/-- The lines that line feeds end, with their line feeds, and what stands behind the last. -/
def wholeLines (bytes : List UInt8) : List (List UInt8) × List UInt8 :=
  let pieces := splitAtEach 10 bytes
  (pieces.dropLast.map (· ++ [10]), pieces.getLast?.getD [])

/-- Whether a character ends lines: a carriage return or a line feed. -/
def isLineEnd (c : Char) : Bool := c == '\r' || c == '\n'

end Tutor.Text
