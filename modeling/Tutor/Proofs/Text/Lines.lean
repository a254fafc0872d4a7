import Mathlib.Data.List.TakeWhile
import Tutor.Proofs.Text.Utf8
import Tutor.Text.Lines

/-!
Cutting bytes into lines.

Bytes either hold no line feed or begin with a line that one ends, and so does text;
`lineInduction` follows that shape. What is behind the last line feed is all that later bytes can
change (`wholeLines_append`), so it does not matter in which pieces the bytes of a stream arrive.
-/

namespace Tutor.Text

/-- A list without a line feed, or a line in front of another list. -/
theorem lineInduction {α : Type} [DecidableEq α] (feed : α) {motive : List α → Prop}
    (rest : ∀ xs, feed ∉ xs → motive xs)
    (line : ∀ line xs, feed ∉ line → motive xs → motive (line ++ feed :: xs))
    (xs : List α) : motive xs := by
  by_cases member : feed ∈ xs
  · obtain ⟨first, behind, same, clean⟩ := List.eq_append_cons_of_mem member
    subst same
    exact line first behind clean (lineInduction feed rest line behind)
  · exact rest xs member
termination_by xs.length

/-! ## The first line -/

theorem takeLine_append {line : List UInt8} (clean : 10 ∉ line) (bytes : List UInt8) :
    takeLine (line ++ 10 :: bytes) = (line ++ [10], bytes) := by
  have other : ∀ byte ∈ line, (byte != 10) = true := by
    intro byte member
    simp only [bne_iff_ne]
    rintro rfl
    exact clean member
  simp [takeLine, List.dropWhile_append_of_pos other, List.takeWhile_append_of_pos other]

theorem takeLine_of_not_mem {bytes : List UInt8} (clean : 10 ∉ bytes) :
    takeLine bytes = (bytes, []) := by
  have none : bytes.dropWhile (· != 10) = [] := by
    rw [List.dropWhile_eq_nil_iff]
    intro byte member
    rw [bne_iff_ne]
    rintro rfl
    exact clean member
  rw [takeLine, none]

/-! ## All lines -/

/-- Pieces are cut as the library cuts them. -/
theorem splitAtEach_eq_splitOn {α : Type} [BEq α] (separator : α) (xs : List α) :
    splitAtEach separator xs = xs.splitOn separator := by
  induction xs with
  | nil => rfl
  | cons x xs ih =>
    obtain ⟨piece, others, pieces⟩ :=
      List.exists_cons_of_ne_nil (List.splitOn_ne_nil separator xs)
    rw [splitAtEach] at ih ⊢
    rw [List.splitOn_cons_eq_if_modifyHead, List.foldr_cons, ih, pieces]
    rfl

theorem length_splitOn {α : Type} [BEq α] [LawfulBEq α] (separator : α) (xs : List α) :
    (xs.splitOn separator).length = xs.count separator + 1 := by
  induction xs with
  | nil => rfl
  | cons x xs ih =>
    rw [List.splitOn_cons_eq_if_modifyHead, List.count_cons]
    split
    · rw [List.length_cons, ih]
    · rw [List.length_modifyHead, ih, Nat.add_zero]

/-- No piece holds a separator. -/
theorem not_mem_of_mem_splitOn {α : Type} [DecidableEq α] {separator : α} {piece xs : List α}
    (member : piece ∈ xs.splitOn separator) : separator ∉ piece := by
  induction xs using lineInduction separator with
  | rest xs clean =>
    rw [List.splitOn_eq_singleton clean, List.mem_singleton] at member
    rwa [member]
  | line line xs clean ih =>
    rw [List.splitOn_append_cons_self_of_not_mem clean, List.mem_cons] at member
    rcases member with rfl | later
    · exact clean
    · exact ih later

/-- Pieces with a separator behind each are found again, and nothing stands behind the last. -/
theorem splitOn_flatMap_concat {α : Type} [DecidableEq α] {separator : α} {pieces : List (List α)}
    (clean : ∀ piece ∈ pieces, separator ∉ piece) :
    (pieces.flatMap (· ++ [separator])).splitOn separator = pieces ++ [[]] := by
  induction pieces with
  | nil => rfl
  | cons piece pieces ih =>
    obtain ⟨cleanPiece, others⟩ := List.forall_mem_cons.1 clean
    rw [List.flatMap_cons, List.append_assoc, List.singleton_append,
      List.splitOn_append_cons_self_of_not_mem cleanPiece, ih others, List.cons_append]

theorem wholeLines_of_not_mem {bytes : List UInt8} (clean : 10 ∉ bytes) :
    wholeLines bytes = ([], bytes) := by
  rw [wholeLines, splitAtEach_eq_splitOn, List.splitOn_eq_singleton clean]
  rfl

theorem wholeLines_cons {line : List UInt8} (clean : 10 ∉ line) (bytes : List UInt8) :
    wholeLines (line ++ 10 :: bytes) =
      ((line ++ [10]) :: (wholeLines bytes).1, (wholeLines bytes).2) := by
  have some := List.splitOn_ne_nil (10 : UInt8) bytes
  simp only [wholeLines, splitAtEach_eq_splitOn, List.splitOn_append_cons_self_of_not_mem clean,
    List.dropLast_cons_of_ne_nil some, List.getLast?_cons_of_ne_nil some, List.map_cons]

/-- What is left behind the last line feed holds none. -/
theorem wholeLines_rest_clean (bytes : List UInt8) : 10 ∉ (wholeLines bytes).2 := by
  induction bytes using lineInduction (10 : UInt8) with
  | rest bytes clean => rwa [wholeLines_of_not_mem clean]
  | line line bytes clean ih => rwa [wholeLines_cons clean]

/-- Later bytes only continue what stands behind the last line feed. -/
theorem wholeLines_append (bytes more : List UInt8) :
    wholeLines (bytes ++ more) =
      ((wholeLines bytes).1 ++ (wholeLines ((wholeLines bytes).2 ++ more)).1,
        (wholeLines ((wholeLines bytes).2 ++ more)).2) := by
  induction bytes using lineInduction (10 : UInt8) with
  | rest bytes clean => simp [wholeLines_of_not_mem clean]
  | line line bytes clean ih =>
    rw [List.append_assoc, List.cons_append, wholeLines_cons clean, wholeLines_cons clean, ih]
    simp

/-- All lines, with the line feeds that end them; the last may have none. -/
def allLines (bytes : List UInt8) : List (List UInt8) :=
  let (lines, rest) := wholeLines bytes
  if rest = [] then lines else lines ++ [rest]

theorem allLines_cons {line : List UInt8} (clean : 10 ∉ line) (bytes : List UInt8) :
    allLines (line ++ 10 :: bytes) = (line ++ [10]) :: allLines bytes := by
  simp only [allLines, wholeLines_cons clean]
  split <;> rfl

theorem allLines_of_not_mem {bytes : List UInt8} (clean : 10 ∉ bytes) :
    allLines bytes = if bytes = [] then [] else [bytes] := by
  simp only [allLines, wholeLines_of_not_mem clean, List.nil_append]

/-- Lines that have been completed are not seen again. -/
theorem allLines_append (bytes more : List UInt8) :
    allLines (bytes ++ more) =
      (wholeLines bytes).1 ++ allLines ((wholeLines bytes).2 ++ more) := by
  simp only [allLines, wholeLines_append bytes more]
  split
  · rfl
  · rw [List.append_assoc]

end Tutor.Text
