import Mathlib.Algebra.Group.Nat.Defs
import Mathlib.Data.List.Induction
import Tutor.Proofs.Protocol.Header
import Tutor.Proofs.Text.Find

/-!
The length that a header tells, and what a call of the reader makes of it.

`LastLength` says which length the lines of a header tell: the number on the last line that opens
with the name of the field, and zero if there is no such line or no number on it. This is what the
reader knows behind the lines (`LastLength.lengthTold_eq`). From there on the call depends on the
length and the bytes behind the header alone (`readMessage_header`).
-/

namespace Tutor

/-! ## Numerals -/

/-- A number below `2 ^ 64` in ASCII digits, behind a plus sign or without one. -/
def LengthNumeral (text : List Char) (n : Nat) : Prop :=
  ∃ digits, (text = digits ∨ text = '+' :: digits) ∧ digits ≠ [] ∧
    (∀ c ∈ digits, c.isDigit = true) ∧ n = Nat.ofDigitChars 10 digits 0 ∧ n < 2 ^ 64

/-- What the text behind the name of the field tells: the number that stands there between blanks,
or zero if anything else does. -/
def TellsLength (value : List Char) (length : Nat) : Prop :=
  ∃ text, Text.Stripped value text ∧
    (LengthNumeral text length ∨ length = 0 ∧ ∀ n, ¬ LengthNumeral text n)

/-- A plus sign is no digit, so it is read as a sign or not at all. -/
theorem lengthNumeral_iff {text : List Char} {n : Nat} :
    LengthNumeral text n ↔
      Text.readNumber Text.wordBound
        (match text with
          | '+' :: digits => digits
          | digits => digits) = some n := by
  rw [Text.readNumber_eq_some_iff]
  constructor
  · intro ⟨digits, spelled, nonempty, all, same⟩
    rcases spelled with rfl | rfl
    · split
      · have digit := all '+' List.mem_cons_self
        cases digit
      · exact ⟨nonempty, all, same⟩
    · exact ⟨nonempty, all, same⟩
  · split
    · rename_i digits
      intro number
      exact ⟨digits, .inr rfl, number⟩
    · intro number
      exact ⟨text, .inl rfl, number⟩

theorem tellsLength_iff {value : List Char} {length : Nat} :
    TellsLength value length ↔ readLength value = length := by
  simp only [TellsLength, Text.stripped_iff, exists_eq_left, lengthNumeral_iff, readLength]
  generalize Text.readNumber Text.wordBound _ = number
  cases number with
  | none => simp [eq_comm]
  | some n => simp

/-! ## Lines -/

/-- What is dropped at the end of a line stands behind the name of the field. -/
theorem dropEndWhile_lengthField (value : List Char) :
    Text.dropEndWhile Text.isLineEnd (lengthField.toList ++ value) =
      lengthField.toList ++ Text.dropEndWhile Text.isLineEnd value :=
  Text.dropEndWhile_append_cons (x := ':') (by decide) "Content-Length".toList value

/-- A line with the name of the field tells the number behind it, whatever ends the line. -/
theorem lengthAfter_of_field (length : Nat) (value : List Char) :
    lengthAfter length (Text.dropEndWhile Text.isLineEnd (lengthField.toList ++ value)) =
      readLength value := by
  have blank : ∀ c ∈ [] ++ (value.reverse.takeWhile Text.isLineEnd).reverse,
      Text.isBlank c = true := by
    intro c member
    have ends := List.mem_takeWhile_imp (List.mem_reverse.mp member)
    rw [Text.isLineEnd, Bool.or_eq_true, beq_iff_eq, beq_iff_eq] at ends
    rcases ends with rfl | rfl <;> decide
  have trimmed := Text.trim_append blank (Text.dropEndWhile Text.isLineEnd value)
  rw [List.nil_append, Text.dropEndWhile_append_takeWhile] at trimmed
  rw [dropEndWhile_lengthField, lengthAfter, Text.dropLead_append]
  simp only [readLength, trimmed]

theorem lengthAfter_of_other (length : Nat) {line : List Char}
    (other : ¬ lengthField.toList <+: line) :
    lengthAfter length (Text.dropEndWhile Text.isLineEnd line) = length := by
  have front : Text.dropEndWhile Text.isLineEnd line <+: line :=
    ⟨_, Text.dropEndWhile_append_takeWhile Text.isLineEnd line⟩
  have shorter : ¬ lengthField.toList <+: Text.dropEndWhile Text.isLineEnd line :=
    fun opens => other (opens.trans front)
  rw [← List.isPrefixOf_iff_prefix] at shorter
  rw [lengthAfter, Text.dropLead, if_neg shorter]

/-- The length that the lines of a header tell. -/
inductive LastLength : List (List Char) → Nat → Prop
  | told {before behind : List (List Char)} {value : List Char} {length : Nat} :
    TellsLength value length → (∀ line ∈ behind, ¬ lengthField.toList <+: line) →
    LastLength (before ++ (lengthField.toList ++ value) :: behind) length
  | untold {fields : List (List Char)} :
    (∀ line ∈ fields, ¬ lengthField.toList <+: line) → LastLength fields 0

theorem lengthTold_append (length : Nat) (fields more : List (List Char)) :
    lengthTold length (fields ++ more) = lengthTold (lengthTold length fields) more :=
  List.foldl_append

theorem lengthTold_of_others (length : Nat) {fields : List (List Char)}
    (others : ∀ line ∈ fields, ¬ lengthField.toList <+: line) :
    lengthTold length fields = length := by
  induction fields with
  | nil => rfl
  | cons line fields ih =>
    obtain ⟨other, later⟩ := List.forall_mem_cons.mp others
    rw [lengthTold, List.foldl_cons, lengthAfter_of_other length other]
    exact ih later

theorem exists_lastLength (fields : List (List Char)) : ∃ length, LastLength fields length := by
  -- The last line decides, unless it tells nothing.
  induction fields using List.reverseRecOn with
  | nil => exact ⟨0, .untold nofun⟩
  | append_singleton fields line ih =>
    by_cases opens : lengthField.toList <+: line
    · obtain ⟨value, rfl⟩ := opens
      exact ⟨readLength value, .told (tellsLength_iff.mpr rfl) nofun⟩
    · obtain ⟨length, last⟩ := ih
      have other : ∀ added ∈ [line], ¬ lengthField.toList <+: added := by simpa using opens
      refine ⟨length, ?_⟩
      cases last with
      | told tells behind =>
        rw [List.append_assoc]
        exact .told tells (List.forall_mem_append.mpr ⟨behind, other⟩)
      | untold others => exact .untold (List.forall_mem_append.mpr ⟨others, other⟩)

/-- Behind the lines of a header the reader knows the length that they tell. -/
theorem LastLength.lengthTold_eq {fields : List (List Char)} {length : Nat}
    (last : LastLength fields length) : lengthTold 0 fields = length := by
  cases last with
  | told tells behind =>
    rw [lengthTold_append, lengthTold, List.foldl_cons, lengthAfter_of_field,
      tellsLength_iff.mp tells]
    exact lengthTold_of_others length behind
  | untold others => exact lengthTold_of_others 0 others

/-! ## What a call makes of the length -/

/-- Nothing is set aside for a body before its length is accepted. -/
theorem readBody_reserved_le (length : Nat) (bytes : List UInt8) :
    (readBody length bytes).reserved ≤ maxLength := by
  unfold readBody
  split_ifs with none beyond short
  · exact Nat.zero_le _
  · exact Nat.zero_le _
  · exact Nat.not_lt.mp beyond
  · exact Nat.not_lt.mp beyond

/-- No call sets aside more than the limit. -/
theorem readFrame_reserved_le (bytes : List UInt8) : (readFrame bytes).reserved ≤ maxLength := by
  unfold readFrame
  split
  · exact Nat.zero_le _
  · exact Nat.zero_le _
  · exact readBody_reserved_le _ _

/-- A call behind a whole header reads a body of the length that its lines tell. -/
theorem readFrame_headerLines {blanks fields : List (List Char)} {closing : List Char}
    (lines : HeaderLines blanks fields) (some : fields ≠ []) (empty : IsEmptyLine closing)
    (rest : List UInt8) :
    readFrame (lineBytes (blanks ++ fields ++ [closing]) ++ rest) =
      readBody (lengthTold 0 fields) rest := by
  have parts : lineBytes (blanks ++ fields ++ [closing]) =
      lineBytes (blanks ++ fields) ++ (Utf8.encode closing ++ [10]) := by simp [lineBytes]
  have block : HeaderBlock (lineBytes (blanks ++ fields) ++ (Utf8.encode closing ++ [10])) rest
      (lengthTold 0 fields) := .mk lines some (.line empty)
  rw [parts]
  exact readFrame_of_complete (headerBlock_iff.mp block)

/-- A header is any number of empty lines, then lines of text, and an empty line behind them. The
last of its lines with the name of the field tells the length, also where an earlier one tells
another. Without a length, or with one beyond the limit, a call is refused behind the header and
sets nothing aside. Otherwise it sets so many bytes aside, answers by so many and leaves what is
behind them, or finds the stream at its end. No call sets aside more bytes for a body than the
limit. -/
theorem readMessage_header {blanks fields : List (List Char)} {closing : List Char}
    (lines : HeaderLines blanks fields) (some : fields ≠ []) (empty : IsEmptyLine closing)
    (rest : List UInt8) :
    ∃ length, (∀ told, LastLength fields told ↔ told = length) ∧
      let bytes := lineBytes (blanks ++ fields ++ [closing]) ++ rest
      (length = 0 → readMessage bytes = (.fault .noLength, rest) ∧ (readFrame bytes).reserved = 0) ∧
        (maxLength < length → readMessage bytes = (.fault (.tooLong length), rest) ∧
          (readFrame bytes).reserved = 0) ∧
        (0 < length → length ≤ maxLength →
          (readFrame bytes).reserved = length ∧
            (∀ body behind, rest = body ++ behind → body.length = length →
              readMessage bytes = (.ofBody body, behind)) ∧
            (rest.length < length → readMessage bytes = (.cutShort, []))) ∧
        ∀ bytes, (readFrame bytes).reserved ≤ maxLength := by
  obtain ⟨length, last⟩ := exists_lastLength fields
  have unique : ∀ told, LastLength fields told ↔ told = length := by
    intro told
    constructor
    · intro other
      exact other.lengthTold_eq.symm.trans last.lengthTold_eq
    · intro same
      rwa [same]
  refine ⟨length, unique, ?_⟩
  intro bytes
  have frame : readFrame bytes = readBody length rest := by
    rw [readFrame_headerLines lines some empty, last.lengthTold_eq]
  have answer : readMessage bytes = (readBody length rest).answer := congrArg Reading.answer frame
  rw [frame, answer]
  refine ⟨?_, ?_, ?_, readFrame_reserved_le⟩
  · intro none
    rw [readBody, if_pos none]
    exact ⟨rfl, rfl⟩
  · intro beyond
    rw [readBody, if_neg (Nat.ne_zero_of_lt beyond), if_pos beyond]
    exact ⟨rfl, rfl⟩
  · intro positive within
    rw [readBody, if_neg positive.ne', if_neg (Nat.not_lt.mpr within)]
    refine ⟨?_, ?_, ?_⟩
    · split <;> rfl
    · intro body behind parts whole
      rw [parts, if_neg (by simp [whole]), ← whole, List.take_left, List.drop_left]
      rfl
    · intro short
      rw [if_pos short]
      rfl

/-- Empty lines in front, two lengths of which the second counts, and carriage returns; the body is
no message. -/
theorem readMessage_header_twice :
    let blanks := [[], ['\r']]
    let fields := ["Content-Length: 99\r".toList, "X-Note: ü".toList,
      "Content-Length:\t +3\r\r".toList]
    let closing := ['\r', '\r']
    let body : List UInt8 := [0x7B, 0xFF, 0x0A]
    let behind : List UInt8 := [0x43]
    HeaderLines blanks fields ∧ fields ≠ [] ∧ IsEmptyLine closing ∧
      readMessage (lineBytes (blanks ++ fields ++ [closing]) ++ (body ++ behind)) =
        (.fault .notMessage, behind) := by
  intro blanks fields closing body behind
  have lines : HeaderLines blanks fields := by
    refine ⟨by decide, by simp [blanks, IsEmptyLine], ?_⟩
    simp [fields, IsEmptyLine]
  have some : fields ≠ [] := List.cons_ne_nil _ _
  have empty : IsEmptyLine closing := by simp [closing, IsEmptyLine]
  obtain ⟨length, last, -, -, found, -⟩ := readMessage_header lines some empty (body ++ behind)
  have three : length = 3 := by
    rw [← ((last length).mpr rfl).lengthTold_eq]
    decide
  subst three
  have noMessage : Incoming.ofBody body = .fault .notMessage := by
    subst body
    with_unfolding_all rfl
  rw [← noMessage]
  exact ⟨lines, some, empty, (found (by decide) (by decide)).2.1 body behind rfl rfl⟩

end Tutor
