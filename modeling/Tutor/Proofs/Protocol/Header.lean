import Tutor.Proofs.Protocol.Stream
import Tutor.Proofs.Text.Decoding

/-!
Headers as they are written.

A header is some empty lines, then lines that are not, and an empty line behind them. A reader that
has passed the lines in front knows the last length that they tell (`readHeader_lines`). Conversely,
where a reader comes to the end of a header the bytes that it has taken are such lines
(`headerBlock_iff`); only the line feed of the very last one may be missing, and then the
stream is over.
-/

namespace Tutor

/-! ## Lines -/

/-- Lines of text as bytes, each with the line feed that ends it. -/
def lineBytes (lines : List (List Char)) : List UInt8 :=
  lines.flatMap fun line => Utf8.encode line ++ [10]

theorem lineBytes_cons (line : List Char) (lines : List (List Char)) (rest : List UInt8) :
    lineBytes (line :: lines) ++ rest = Utf8.encode line ++ 10 :: (lineBytes lines ++ rest) := by
  simp [lineBytes]

/-- A line is empty if it holds nothing but carriage returns. -/
def IsEmptyLine (line : List Char) : Prop := ∀ c ∈ line, c = '\r'

theorem IsEmptyLine.clean {line : List Char} (empty : IsEmptyLine line) : '\n' ∉ line := by
  intro member
  cases empty _ member

theorem isEmptyLine_iff {line : List Char} (clean : '\n' ∉ line) :
    IsEmptyLine line ↔ Text.dropEndWhile Text.isLineEnd line = [] := by
  rw [Text.dropEndWhile, List.reverse_eq_nil_iff, List.dropWhile_eq_nil_iff]
  simp only [List.mem_reverse, Text.isLineEnd, Bool.or_eq_true, beq_iff_eq]
  refine forall₂_congr fun c member => ⟨.inl, ?_⟩
  rintro (rfl | rfl)
  · rfl
  · exact absurd member clean

/-- The lines of a header in front of its last: empty ones, and then others. -/
structure HeaderLines (blanks fields : List (List Char)) : Prop where
  clean : ∀ line ∈ blanks ++ fields, '\n' ∉ line
  blank : ∀ line ∈ blanks, IsEmptyLine line
  filled : ∀ line ∈ fields, ¬ IsEmptyLine line

/-- The length that some lines tell behind another: the last of them that tells one decides. -/
def lengthTold (length : Nat) (fields : List (List Char)) : Nat :=
  fields.foldl (fun told line => lengthAfter told (Text.dropEndWhile Text.isLineEnd line)) length

namespace HeaderLines

variable {blanks fields : List (List Char)} {line : List Char}

theorem nil : HeaderLines [] [] := ⟨nofun, nofun, nofun⟩

theorem cons_field (clean : '\n' ∉ line) (filled : ¬ IsEmptyLine line)
    (later : HeaderLines [] fields) : HeaderLines [] (line :: fields) :=
  ⟨List.forall_mem_cons.2 ⟨clean, later.clean⟩, nofun,
    List.forall_mem_cons.2 ⟨filled, later.filled⟩⟩

theorem cons_blank (clean : '\n' ∉ line) (empty : IsEmptyLine line)
    (later : HeaderLines blanks fields) : HeaderLines (line :: blanks) fields :=
  ⟨List.forall_mem_cons.2 ⟨clean, later.clean⟩, List.forall_mem_cons.2 ⟨empty, later.blank⟩,
    later.filled⟩

end HeaderLines

/-! ## Reading lines -/

/-- Behind lines that are not empty a reader knows the last length that was told. -/
theorem readHeader_fields {fields : List (List Char)} (lines : HeaderLines [] fields)
    (length : Nat) (rest : List UInt8) :
    readHeader true length (lineBytes fields ++ rest) =
      readHeader true (lengthTold length fields) rest := by
  induction fields generalizing length with
  | nil => rfl
  | cons line fields ih =>
    obtain ⟨clean, cleanLater⟩ := List.forall_mem_cons.1 lines.clean
    obtain ⟨filled, filledLater⟩ := List.forall_mem_cons.1 lines.filled
    rw [lineBytes_cons, readHeader_line clean, if_neg ((isEmptyLine_iff clean).not.1 filled),
      ih ⟨cleanLater, nofun, filledLater⟩]
    rfl

/-- A reader passes over the lines of a header; the header has begun if one of them is not empty. -/
theorem readHeader_lines {blanks fields : List (List Char)} (lines : HeaderLines blanks fields)
    (length : Nat) (rest : List UInt8) :
    readHeader false length (lineBytes (blanks ++ fields) ++ rest) =
      readHeader (!fields.isEmpty) (lengthTold length fields) rest := by
  induction blanks with
  | nil =>
    cases fields with
    | nil => rfl
    | cons line fields =>
      obtain ⟨clean, cleanLater⟩ := List.forall_mem_cons.1 lines.clean
      obtain ⟨filled, filledLater⟩ := List.forall_mem_cons.1 lines.filled
      rw [List.nil_append, lineBytes_cons, readHeader_line clean,
        if_neg ((isEmptyLine_iff clean).not.1 filled),
        readHeader_fields ⟨cleanLater, nofun, filledLater⟩]
      rfl
  | cons line blanks ih =>
    obtain ⟨clean, cleanLater⟩ := List.forall_mem_cons.1 lines.clean
    obtain ⟨empty, emptyLater⟩ := List.forall_mem_cons.1 lines.blank
    rw [List.cons_append, lineBytes_cons, readHeader_line clean,
      if_pos ((isEmptyLine_iff clean).1 empty), if_neg Bool.false_ne_true,
      ih ⟨cleanLater, emptyLater, lines.filled⟩]

/-- A line of bytes that is no text ends the call of the reader, with the line. -/
theorem readHeader_notText {line : List UInt8} (clean : 10 ∉ line)
    (notText : Utf8.read? (line ++ [10]) = none) (begun : Bool) (length : Nat)
    (rest : List UInt8) :
    readHeader begun length (line ++ 10 :: rest) = (.notText, rest) := by
  rw [readHeader_of_ne_nil (by simp), Text.takeLine_append clean]
  simp only [notText]

theorem readHeader_nil (begun : Bool) (length : Nat) :
    readHeader begun length [] = (.ended, []) := by
  rw [readHeader, dif_pos rfl]

/-- A last line without a line feed counts as a line, but nothing is left for another. -/
theorem readHeader_last {line : List Char} (nonempty : line ≠ []) (clean : '\n' ∉ line)
    (begun : Bool) (length : Nat) :
    readHeader begun length (Utf8.encode line) =
      if Text.dropEndWhile Text.isLineEnd line = [] ∧ begun = true then (.complete length, [])
      else (.ended, []) := by
  have bytes : Utf8.encode line ≠ [] := Utf8.encode_eq_nil.not.2 nonempty
  rw [readHeader_of_ne_nil bytes, Text.takeLine_of_not_mem (Utf8.feed_mem_encode.not.2 clean)]
  simp only [Utf8.read?_encode, readHeader_nil]
  cases begun <;> simp

theorem readHeader_last_notText {bytes : List UInt8} (clean : 10 ∉ bytes)
    (notText : Utf8.read? bytes = none) (begun : Bool) (length : Nat) :
    readHeader begun length bytes = (.notText, []) := by
  have nonempty : bytes ≠ [] := by
    rintro rfl
    cases notText
  rw [readHeader_of_ne_nil nonempty, Text.takeLine_of_not_mem clean]
  simp only [notText]

/-! ## Where a reader stops -/

/-- Where a reader stops within a header, which has begun or not: at the empty line that ends one
that has, at a line that is no text, or at bytes without a line feed. -/
inductive HeaderStop : Bool → List UInt8 → Prop
  | closing {line : List Char} {rest : List UInt8} :
    IsEmptyLine line → HeaderStop true (Utf8.encode line ++ 10 :: rest)
  | notText {begun : Bool} {line rest : List UInt8} :
    10 ∉ line → Utf8.read? (line ++ [10]) = none → HeaderStop begun (line ++ 10 :: rest)
  | last {begun : Bool} {line : List Char} : '\n' ∉ line → HeaderStop begun (Utf8.encode line)
  | lastNotText {begun : Bool} {bytes : List UInt8} :
    10 ∉ bytes → Utf8.read? bytes = none → HeaderStop begun bytes

/-- All bytes are lines of a header up to where a reader stops. -/
theorem exists_headerLines (begun : Bool) (bytes : List UInt8) :
    ∃ blanks fields rest, HeaderLines blanks fields ∧ (begun = true → blanks = []) ∧
      HeaderStop (begun || !fields.isEmpty) rest ∧
      bytes = lineBytes (blanks ++ fields) ++ rest := by
  induction bytes using Text.lineInduction (10 : UInt8) generalizing begun with
  | rest bytes clean =>
    refine ⟨[], [], bytes, .nil, fun _ => rfl, ?_, rfl⟩
    cases isText : Utf8.read? bytes with
    | none => exact .lastNotText clean isText
    | some line =>
      have same := Utf8.encode_of_read? isText
      subst same
      exact .last fun member => clean (Utf8.feed_mem_encode.2 member)
  | line line bytes clean ih =>
    cases isText : Utf8.read? (line ++ [10]) with
    | none => exact ⟨[], [], _, .nil, fun _ => rfl, .notText clean isText, rfl⟩
    | some text =>
      obtain ⟨line, rfl⟩ := Utf8.eq_encode_of_read?_feed isText
      have cleanLine : '\n' ∉ line := fun member => clean (Utf8.feed_mem_encode.2 member)
      -- Behind a filled line the header has begun, so the lines behind it have no empty ones first.
      by_cases empty : IsEmptyLine line
      · cases begun with
        | true => exact ⟨[], [], _, .nil, fun _ => rfl, .closing empty, rfl⟩
        | false =>
          obtain ⟨blanks, fields, rest, lines, -, stop, same⟩ := ih false
          refine ⟨line :: blanks, fields, rest, lines.cons_blank cleanLine empty, nofun, stop, ?_⟩
          rw [same, List.cons_append, lineBytes_cons]
      · obtain ⟨blanks, fields, rest, lines, none, stop, same⟩ := ih true
        cases none rfl
        refine ⟨[], line :: fields, rest, lines.cons_field cleanLine empty, fun _ => rfl, ?_, ?_⟩
        · rwa [List.isEmpty_cons, Bool.not_false, Bool.or_true]
        · rw [same, List.nil_append, List.nil_append, lineBytes_cons]

/-! ## Behind a header -/

theorem Text.takeLine_suffix (bytes : List UInt8) : (takeLine bytes).2 <:+ bytes := by
  induction bytes using lineInduction (10 : UInt8) with
  | rest bytes clean =>
    rw [takeLine_of_not_mem clean]
    exact List.nil_suffix
  | line line bytes clean _ =>
    rw [takeLine_append clean]
    exact ⟨line ++ [10], by simp⟩

/-- What is left behind a header is the end of its bytes. -/
theorem readHeader_suffix (begun : Bool) (length : Nat) (bytes : List UInt8) :
    (readHeader begun length bytes).2 <:+ bytes := by
  fun_induction readHeader begun length bytes with
  | case1 => exact List.suffix_rfl
  | case2 => exact Text.takeLine_suffix _
  | case3 => exact Text.takeLine_suffix _
  | case4 => rename_i ih; exact ih.trans (Text.takeLine_suffix _)
  | case5 => rename_i ih; exact ih.trans (Text.takeLine_suffix _)

section Calls

variable {bytes rest : List UInt8}

theorem readMessage_of_ended (header : readHeader false 0 bytes = (.ended, rest)) :
    readMessage bytes = (.ended, rest) := by
  rw [readMessage, readFrame, header]
  rfl

theorem readMessage_of_notText (header : readHeader false 0 bytes = (.notText, rest)) :
    readMessage bytes = (.fault .headerNotText, rest) := by
  rw [readMessage, readFrame, header]
  rfl

theorem readFrame_of_complete {length : Nat}
    (header : readHeader false 0 bytes = (.complete length, rest)) :
    readFrame bytes = readBody length rest := by
  rw [readFrame, header]

theorem readMessage_of_complete {length : Nat}
    (header : readHeader false 0 bytes = (.complete length, rest)) :
    readMessage bytes = (readBody length rest).answer :=
  congrArg Reading.answer (readFrame_of_complete header)

/-- What is left behind a body was there in front of it. -/
theorem readBody_suffix (length : Nat) (bytes : List UInt8) :
    (readBody length bytes).rest <:+ bytes := by
  unfold readBody
  split
  · exact List.suffix_rfl
  split
  · exact List.suffix_rfl
  split
  · exact List.nil_suffix
  · exact List.drop_suffix length bytes

/-- What is left behind a call was there behind its header. -/
theorem readMessage_suffix_readHeader (bytes : List UInt8) :
    (readMessage bytes).2 <:+ (readHeader false 0 bytes).2 := by
  cases header : readHeader false 0 bytes with | mk found rest =>
  cases found with
  | ended => simp only [readMessage_of_ended header, List.suffix_rfl]
  | notText => simp only [readMessage_of_notText header, List.suffix_rfl]
  | complete length =>
    rw [readMessage_of_complete header]
    exact readBody_suffix length rest

theorem readMessage_suffix (bytes : List UInt8) : (readMessage bytes).2 <:+ bytes :=
  (readMessage_suffix_readHeader bytes).trans (readHeader_suffix false 0 bytes)

end Calls

/-! ## Whole headers -/

/-- The empty line that ends a header, in front of `rest`. A stream may end before its line feed. -/
inductive Closing : List UInt8 → List UInt8 → Prop
  | line {closing : List Char} {rest : List UInt8} :
    IsEmptyLine closing → Closing (Utf8.encode closing ++ [10]) rest
  | last {closing : List Char} :
    IsEmptyLine closing → closing ≠ [] → Closing (Utf8.encode closing) []

/-- A whole header in front of `rest`, and the length that it tells. -/
inductive HeaderBlock : List UInt8 → List UInt8 → Nat → Prop
  | mk {blanks fields : List (List Char)} {closing rest : List UInt8} :
    HeaderLines blanks fields → fields ≠ [] → Closing closing rest →
    HeaderBlock (lineBytes (blanks ++ fields) ++ closing) rest (lengthTold 0 fields)

theorem Closing.readHeader {closing rest : List UInt8} (closes : Closing closing rest)
    (length : Nat) : readHeader true length (closing ++ rest) = (.complete length, rest) := by
  cases closes with
  | @line closing rest empty =>
    rw [List.append_assoc, List.singleton_append, readHeader_line empty.clean,
      if_pos ((isEmptyLine_iff empty.clean).1 empty), if_pos rfl]
  | @last closing empty nonempty =>
    rw [List.append_nil, readHeader_last nonempty empty.clean,
      if_pos ⟨(isEmptyLine_iff empty.clean).1 empty, rfl⟩]

/-- Where a reader comes to the end of a header it has passed its lines. -/
theorem readHeader_complete {length told : Nat} {bytes rest : List UInt8}
    (read : readHeader false length bytes = (.complete told, rest)) :
    ∃ blanks fields closing, HeaderLines blanks fields ∧ fields ≠ [] ∧
      lengthTold length fields = told ∧ Closing closing rest ∧
      bytes = lineBytes (blanks ++ fields) ++ closing ++ rest := by
  obtain ⟨blanks, fields, behind, lines, -, stop, rfl⟩ := exists_headerLines false bytes
  rw [readHeader_lines lines] at read
  rw [Bool.false_or] at stop
  generalize begins : (!fields.isEmpty) = begun at read stop
  cases stop with
  | @closing line behind empty =>
    rw [readHeader_line empty.clean, if_pos ((isEmptyLine_iff empty.clean).1 empty), if_pos rfl]
      at read
    cases read
    exact ⟨blanks, fields, _, lines, by simpa using begins, rfl, .line empty, by simp⟩
  | notText clean notText =>
    rw [readHeader_notText clean notText] at read
    cases read
  | @last _ line clean =>
    rcases eq_or_ne line [] with rfl | nonempty
    · rw [Utf8.encode_nil, readHeader_nil] at read
      cases read
    rw [readHeader_last nonempty clean] at read
    split at read
    · rename_i ends
      cases read
      have empty := (isEmptyLine_iff clean).2 ends.1
      exact ⟨blanks, fields, _, lines, by simpa [ends.2] using begins, rfl, .last empty nonempty,
        by simp⟩
    · cases read
  | lastNotText clean notText =>
    rw [readHeader_last_notText clean notText] at read
    cases read

/-- Bytes that are over before a header ends are lines of a header, the last perhaps without its
line feed. -/
theorem readHeader_ended {length : Nat} {bytes rest : List UInt8}
    (read : readHeader false length bytes = (.ended, rest)) :
    ∃ blanks fields last, HeaderLines blanks fields ∧ '\n' ∉ last ∧
      bytes = lineBytes (blanks ++ fields) ++ Utf8.encode last := by
  obtain ⟨blanks, fields, behind, lines, -, stop, rfl⟩ := exists_headerLines false bytes
  rw [readHeader_lines lines] at read
  rw [Bool.false_or] at stop
  generalize (!fields.isEmpty) = begun at read stop
  cases stop with
  | closing empty =>
    rw [readHeader_line empty.clean, if_pos ((isEmptyLine_iff empty.clean).1 empty), if_pos rfl]
      at read
    cases read
  | notText clean notText =>
    rw [readHeader_notText clean notText] at read
    cases read
  | @last _ line clean => exact ⟨blanks, fields, line, lines, clean, rfl⟩
  | lastNotText clean notText =>
    rw [readHeader_last_notText clean notText] at read
    cases read

/-- A reader comes to the end of a header exactly behind a whole header, and it then knows the
length that it tells. -/
theorem headerBlock_iff {header rest : List UInt8} {length : Nat} :
    HeaderBlock header rest length ↔
      readHeader false 0 (header ++ rest) = (.complete length, rest) := by
  constructor
  · intro block
    cases block with
    | @mk blanks fields closing rest lines some closes =>
      rw [List.append_assoc, readHeader_lines lines, List.isEmpty_eq_false_iff.2 some]
      exact closes.readHeader _
  · intro read
    obtain ⟨blanks, fields, closing, lines, some, told, closes, same⟩ := readHeader_complete read
    rw [(List.append_left_inj rest).1 same, ← told]
    exact .mk lines some closes

/-- Bytes that are over within the body of a message: a whole header that tells a length within the
limit, and fewer bytes behind it than it tells. -/
inductive WithinBody : List UInt8 → Prop
  | mk {header body : List UInt8} {length : Nat} :
    HeaderBlock header body length → 0 < length → length ≤ maxLength → body.length < length →
    WithinBody (header ++ body)

theorem Incoming.ofBody_goesOn (body : List UInt8) : (ofBody body).goesOn = true := by
  unfold ofBody
  split <;> rfl

theorem readBody_cutShort_iff {length : Nat} {bytes : List UInt8} :
    (readBody length bytes).incoming = .cutShort ↔
      0 < length ∧ length ≤ maxLength ∧ bytes.length < length := by
  unfold readBody
  split
  · exact iff_of_false nofun (by omega)
  split
  · exact iff_of_false nofun (by omega)
  split
  · exact iff_of_true rfl (by omega)
  · refine iff_of_false (fun cut => ?_) (by omega)
    have goesOn := Incoming.ofBody_goesOn (bytes.take length)
    rw [show Incoming.ofBody (bytes.take length) = .cutShort from cut] at goesOn
    cases goesOn

/-- A message is cut short exactly where the bytes are over within its body. -/
theorem readMessage_cutShort_iff {bytes : List UInt8} :
    (readMessage bytes).1 = .cutShort ↔ WithinBody bytes := by
  constructor
  · intro cut
    cases header : readHeader false 0 bytes with | mk found rest =>
    cases found with
    | ended =>
      rw [readMessage_of_ended header] at cut
      cases cut
    | notText =>
      rw [readMessage_of_notText header] at cut
      cases cut
    | complete length =>
      rw [readMessage_of_complete header] at cut
      obtain ⟨positive, within, short⟩ := readBody_cutShort_iff.1 cut
      obtain ⟨front, same⟩ : rest <:+ bytes := by
        simpa only [header] using readHeader_suffix false 0 bytes
      subst same
      exact .mk (headerBlock_iff.2 header) positive within short
  · rintro ⟨block, positive, within, short⟩
    rw [readMessage_of_complete (headerBlock_iff.1 block)]
    exact readBody_cutShort_iff.2 ⟨positive, within, short⟩

end Tutor
