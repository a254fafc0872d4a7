import Mathlib.Algebra.Group.Nat.Defs
import Tutor.Proofs.Failure.Category
import Tutor.Proofs.Text.Blank
import Tutor.Proofs.Text.Leftmost

/-!
The line that a failure is put down to.

A line number stands behind some leading words. `NumberBehind` says which number is read there: all
the decimal digits, of any script, at the first place where the words have one behind them, provided
that they are ASCII digits and spell a 64-bit word. The reader agrees with it
(`lineBehind_eq_some_iff`), so a number that was printed behind the words is found again unless such
a place stands before it (`NumberBehind.of_printed`).
-/

namespace Tutor

/-! ## Numbers behind words -/

/-- A text begins with `lead` and a decimal digit, of any script, right behind it. -/
def DigitBehind (lead : String) (text : List Char) : Prop :=
  ∃ digit rest, text = lead.toList ++ digit :: rest ∧ Text.isDecimalDigit digit = true

/-- All the decimal digits at the first place where `lead` has one behind it. -/
structure FirstDigits (lead : String) (text digits behind : List Char) : Prop where
  place : Text.FirstPlace (DigitBehind lead) text (lead.toList ++ (digits ++ behind))
  decimal : ∀ c ∈ digits, Text.isDecimalDigit c = true
  maximal : ∀ c ∈ behind.head?, Text.isDecimalDigit c = false

/-- Digits that are a line number: they are ASCII digits, perhaps with leading zeros, and spell a
64-bit word. -/
structure LineNumeral (digits : List Char) (n : Nat) : Prop where
  ascii : ∀ c ∈ digits, c.isDigit = true
  value : n = Nat.ofDigitChars 10 digits 0
  fits : n < 2 ^ 64

/-- The line number `n` stands at the first place where `lead` has a digit behind it. -/
def NumberBehind (lead : String) (text : List Char) (n : Nat) : Prop :=
  ∃ digits behind, FirstDigits lead text digits behind ∧ LineNumeral digits n

variable {lead : String} {text digits behind : List Char} {n : Nat}

theorem FirstDigits.nonempty (first : FirstDigits lead text digits behind) : digits ≠ [] := by
  intro none
  obtain ⟨digit, rest, split, decimal⟩ := first.place.here
  rw [List.append_cancel_left_eq, none, List.nil_append] at split
  cases decimal.symm.trans (first.maximal digit (by rw [split]; rfl))

/-! ## The reader -/

/-- The digits right behind `lead` at the start of a text. -/
def digitsAt (lead : String) (text : List Char) : Option (List Char) :=
  (Text.dropLead lead.toList text).bind fun rest =>
    let digits := rest.takeWhile Text.isDecimalDigit
    if digits.isEmpty then none else some digits

theorem digitsBehind_eq : digitsBehind lead = Text.leftmost (digitsAt lead) := rfl

theorem digitsAt_eq_some_iff :
    digitsAt lead text = some digits ↔
      digits ≠ [] ∧ ∃ behind, text = lead.toList ++ (digits ++ behind) ∧
        (∀ c ∈ digits, Text.isDecimalDigit c = true) ∧
        ∀ c ∈ behind.head?, Text.isDecimalDigit c = false := by
  rw [digitsAt, Option.bind_eq_some_iff]
  constructor
  · intro ⟨rest, dropped, taken⟩
    rw [Option.ite_none_left_eq_some, List.isEmpty_iff, Option.some_inj] at taken
    obtain ⟨nonempty, taken⟩ := taken
    obtain ⟨split, decimal, maximal⟩ := Text.takeWhile_dropWhile_iff.1 ⟨taken, rfl⟩
    rw [taken] at nonempty
    refine ⟨nonempty, _, ?_, decimal, maximal⟩
    rw [← split]
    exact Text.dropLead_eq_some_iff.1 dropped
  · intro ⟨nonempty, behind, split, decimal, maximal⟩
    have taken := (Text.takeWhile_dropWhile_iff.2 ⟨rfl, decimal, maximal⟩).1
    refine ⟨digits ++ behind, Text.dropLead_eq_some_iff.2 split, ?_⟩
    rw [taken]
    exact if_neg (by rwa [List.isEmpty_iff])

theorem digitsAt_ne_none_iff (text : List Char) :
    digitsAt lead text ≠ none ↔ DigitBehind lead text := by
  rw [Option.ne_none_iff_exists']
  constructor
  · intro ⟨digits, read⟩
    obtain ⟨nonempty, behind, split, decimal, -⟩ := digitsAt_eq_some_iff.1 read
    obtain ⟨digit, others, same⟩ := List.exists_cons_of_ne_nil nonempty
    rw [same] at split decimal
    exact ⟨digit, others ++ behind, split, decimal digit List.mem_cons_self⟩
  · intro ⟨digit, rest, split, decimal⟩
    obtain ⟨whole, all, maximal⟩ := Text.takeWhile_dropWhile_iff.1
      ⟨rfl, Eq.refl ((digit :: rest).dropWhile Text.isDecimalDigit)⟩
    refine ⟨_, digitsAt_eq_some_iff.2 ⟨?_, _, by rw [← whole, split], all, maximal⟩⟩
    rw [List.takeWhile_cons_of_pos decimal]
    exact List.cons_ne_nil digit _

theorem digitsBehind_eq_some_iff :
    digitsBehind lead text = some digits ↔ ∃ behind, FirstDigits lead text digits behind := by
  rw [digitsBehind_eq, Text.leftmost_eq_some_iff digitsAt_ne_none_iff]
  constructor
  · intro ⟨rest, place, read⟩
    obtain ⟨-, behind, split, decimal, maximal⟩ := digitsAt_eq_some_iff.1 read
    rw [split] at place
    exact ⟨behind, place, decimal, maximal⟩
  · intro ⟨behind, first⟩
    refine ⟨_, first.place, digitsAt_eq_some_iff.2 ?_⟩
    exact ⟨first.nonempty, behind, rfl, first.decimal, first.maximal⟩

theorem digitsBehind_eq_none_iff :
    digitsBehind lead text = none ↔ ¬ Text.Somewhere (DigitBehind lead) text :=
  Text.leftmost_eq_none_iff digitsAt_ne_none_iff

/-- The number that is read is the one at the first place with a digit; no later place is
tried. -/
theorem lineBehind_eq_some_iff : lineBehind lead text = some n ↔ NumberBehind lead text n := by
  have bound : Text.wordBound = 2 ^ 64 := rfl
  simp only [lineBehind, Option.bind_eq_some_iff, digitsBehind_eq_some_iff,
    Text.readNumber_eq_some_iff, bound]
  constructor
  · intro ⟨digits, ⟨behind, first⟩, _, ascii, value, fits⟩
    exact ⟨digits, behind, first, ascii, value, fits⟩
  · intro ⟨digits, behind, first, numeral⟩
    exact ⟨digits, ⟨behind, first⟩, first.nonempty, numeral.ascii, numeral.value, numeral.fits⟩

/-! ## Printed numbers -/

theorem isDecimalDigit_of_isDigit {c : Char} (digit : c.isDigit = true) :
    Text.isDecimalDigit c = true := by
  have bounds : 48 ≤ c.toNat ∧ c.toNat ≤ 57 := by
    simpa [Char.isDigit, UInt32.le_iff_toNat_le] using digit
  rw [Text.isDecimalDigit, if_pos (by omega), digit]

/-- Words that lead to a number: their first character stands nowhere else in them and is no
digit. -/
structure Leading (lead : String) : Prop where
  alone : Text.HeadAlone lead.toList
  noDigit : ∀ c ∈ lead.toList.head?, Text.isDecimalDigit c = false

/-- A place with a digit is the first if there is none in front of it. -/
theorem Leading.firstPlace {before rest : List Char} (leading : Leading lead)
    (absent : ¬ Text.Somewhere (DigitBehind lead) before)
    (here : DigitBehind lead (lead.toList ++ rest)) :
    Text.FirstPlace (DigitBehind lead) (before ++ (lead.toList ++ rest)) (lead.toList ++ rest) := by
  have starts (text : List Char) (is : DigitBehind lead text) : lead.toList <+: text := by
    obtain ⟨digit, behind, split, -⟩ := is
    exact ⟨digit :: behind, split.symm⟩
  refine .of_mark leading.alone starts here fun between within is => ?_
  obtain ⟨digit, behind, split, decimal⟩ := is
  rw [List.append_cancel_left_eq] at split
  cases between with
  | nil =>
    -- The digit would be the first character of the words.
    obtain ⟨first, others, same, -⟩ := leading.alone
    rw [List.nil_append, same, List.cons_append, List.cons_eq_cons] at split
    have noDigit := leading.noDigit first (by rw [same]; rfl)
    rw [split.1] at noDigit
    cases noDigit.symm.trans decimal
  | cons c between =>
    rw [List.cons_append, List.cons_eq_cons] at split
    rw [split.1] at within
    exact absent ⟨_, within, digit, between, rfl, decimal⟩

/-- A printed line number is read, whatever stands behind it but a further digit. -/
theorem NumberBehind.of_printed {before : List Char} (leading : Leading lead)
    (absent : ¬ Text.Somewhere (DigitBehind lead) before)
    (ends : ∀ c ∈ behind.head?, Text.isDecimalDigit c = false) (fits : n < 2 ^ 64) :
    NumberBehind lead (before ++ (lead.toList ++ (Nat.toDigits 10 n ++ behind))) n := by
  have decimal : ∀ c ∈ Nat.toDigits 10 n, Text.isDecimalDigit c = true := fun c member =>
    isDecimalDigit_of_isDigit (Text.isDigit_of_mem_toDigits member)
  have here : DigitBehind lead (lead.toList ++ (Nat.toDigits 10 n ++ behind)) := by
    have some : Nat.toDigits 10 n ≠ [] := Nat.toDigits_ne_nil
    obtain ⟨digit, others, same⟩ := List.exists_cons_of_ne_nil some
    rw [same] at decimal ⊢
    exact ⟨digit, others ++ behind, rfl, decimal digit List.mem_cons_self⟩
  refine ⟨Nat.toDigits 10 n, behind, ⟨leading.firstPlace absent here, decimal, ends⟩, ?_⟩
  exact ⟨fun c member => Text.isDigit_of_mem_toDigits member, Nat.ofDigitChars_ten_toDigits.symm,
    fits⟩

/-! ## The line of a report -/

theorem leading_blame : Leading "File \"<string>\", line " where
  alone := ⟨'F', _, rfl, by decide⟩
  noDigit := by
    intro c first
    cases first
    rfl

theorem leading_mention : Leading "line " where
  alone := ⟨'l', _, rfl, by decide⟩
  noDigit := by
    intro c first
    cases first
    rfl

theorem toList_printed (before lead behind : String) (n : Nat) :
    (before ++ lead ++ toString n ++ behind).toList =
      before.toList ++ (lead.toList ++ (Nat.toDigits 10 n ++ behind.toList)) := by
  simp only [String.toList_append, Nat.toString_eq_repr, Nat.toList_repr, List.append_assoc]

namespace Diagnosis

/-- An empty report has no line, as no line number stands in it. -/
theorem line_ofReport? (report : String) :
    (ofReport? report).bind (·.line) = blamedLine report.toList := by
  by_cases empty : report = ""
  · rw [empty]
    rfl
  · rw [FailureInfo.ofReport?_of_ne empty]
    rfl

/-- A report that blames a line is read, and the message about it names the line. -/
theorem exists_of_blamedLine {report : String} {n : Nat}
    (blamed : blamedLine report.toList = some n) :
    ∃ diagnosis, ofReport? report = some diagnosis ∧ diagnosis.line = some n ∧
      (" (Line " ++ toString n ++ ")").toList <:+: diagnosis.friendlyMessage.toList := by
  have filled : report ≠ "" := by
    intro empty
    rw [empty] at blamed
    cases blamed
  have mention : lineMention (some n) = " (Line " ++ toString n ++ ")" := by
    rw [lineMention, Nat.toString_eq_repr, Nat.repr_eq_ofList_toDigits]
  refine ⟨_, FailureInfo.ofReport?_of_ne filled, blamed, ?_⟩
  rw [← mention, FailureInfo.messageOn_eq, blamed]
  simp only [String.toList_append]
  apply (List.infix_append _ _ _).trans
  exact (List.prefix_append _ _).isInfix

/-- The line of a report is the number at the first place where it names the submitted program with
a digit behind it: all the decimal digits there, if they are ASCII digits and spell a 64-bit word.
No later place is tried. A line of a text of unknown shape is found in the same way. So a line
number that is printed into a report is found again and named in the message, unless such a place
stands before it or a further digit behind it. -/
theorem line_at_first_digit (report : String) :
    (∀ n, (ofReport? report).bind (·.line) = some n ↔
      NumberBehind "File \"<string>\", line " report.toList n) ∧
    (∀ n, mentionedLine report = some n ↔ NumberBehind "line " report.toList n) ∧
    ∀ (before behind : String) (n : Nat),
      (∀ c ∈ behind.toList.head?, Text.isDecimalDigit c = false) → n < 2 ^ 64 →
      (¬ Text.Somewhere (DigitBehind "File \"<string>\", line ") before.toList →
        ∃ diagnosis,
          ofReport? (before ++ "File \"<string>\", line " ++ toString n ++ behind) =
            some diagnosis ∧
          diagnosis.line = some n ∧
          (" (Line " ++ toString n ++ ")").toList <:+: diagnosis.friendlyMessage.toList) ∧
      (¬ Text.Somewhere (DigitBehind "line ") before.toList →
        mentionedLine (before ++ "line " ++ toString n ++ behind) = some n) := by
  refine ⟨fun n => ?_, fun n => lineBehind_eq_some_iff, fun before behind n ends fits => ⟨?_, ?_⟩⟩
  · rw [line_ofReport?]
    exact lineBehind_eq_some_iff
  · intro absent
    have printed := NumberBehind.of_printed leading_blame absent ends fits
    rw [← toList_printed] at printed
    exact exists_of_blamedLine (lineBehind_eq_some_iff.2 printed)
  · intro absent
    have printed := NumberBehind.of_printed leading_mention absent ends fits
    rw [← toList_printed] at printed
    exact lineBehind_eq_some_iff.2 printed

/-- The largest line number, behind a place where no digit stands. -/
theorem line_at_first_digit_later :
    let before := "File \"<string>\", line ?\n"
    let behind := ", in <module>"
    let report := before ++ "File \"<string>\", line " ++ toString (2 ^ 64 - 1) ++ behind
    (∀ c ∈ behind.toList.head?, Text.isDecimalDigit c = false) ∧
      ¬ Text.Somewhere (DigitBehind "File \"<string>\", line ") before.toList ∧
      report = before ++ "File \"<string>\", line 18446744073709551615, in <module>" ∧
      (ofReport? report).bind (·.line) = some 18446744073709551615 := by
  intro before behind report
  have ends : ∀ c ∈ ", in <module>".toList.head?, Text.isDecimalDigit c = false := by
    intro c first
    cases first
    rfl
  have absent : ¬ Text.Somewhere (DigitBehind "File \"<string>\", line ") before.toList :=
    digitsBehind_eq_none_iff.1 (by decide)
  obtain ⟨-, -, printed⟩ := line_at_first_digit report
  obtain ⟨diagnosis, read, line, -⟩ :=
    (printed before behind (2 ^ 64 - 1) ends (by decide)).1 absent
  refine ⟨ends, absent, by decide, ?_⟩
  rw [read]
  exact line

end Diagnosis

end Tutor
