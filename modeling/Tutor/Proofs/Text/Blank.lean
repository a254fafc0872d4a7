import Mathlib.Data.List.TakeWhile
import Tutor.Text.Blank
import Tutor.Text.Digit
import Tutor.Text.Lines
import Tutor.Text.Word

/-!
Cutting characters off the end of a text, and texts that have nothing to cut off. White space and
the characters of words are apart from each other.
-/

namespace Tutor.Text

variable {α : Type} {test : α → Bool}

/-! ## The end of a list -/

/-- A run of members that pass the test is dropped behind any list. -/
theorem dropEndWhile_append_of_pos {ys : List α} (pass : ∀ y ∈ ys, test y = true) (xs : List α) :
    dropEndWhile test (xs ++ ys) = dropEndWhile test xs := by
  have reversed : ∀ y ∈ ys.reverse, test y = true := fun y member =>
    pass y (List.mem_reverse.1 member)
  rw [dropEndWhile, List.reverse_append, List.dropWhile_append_of_pos reversed, dropEndWhile]

/-- What stands behind a member that fails the test is dropped as if it stood alone. -/
theorem dropEndWhile_append_cons {x : α} (fails : test x = false) (xs ys : List α) :
    dropEndWhile test (xs ++ x :: ys) = xs ++ x :: dropEndWhile test ys := by
  have parts : (xs ++ x :: ys).reverse = ys.reverse ++ x :: xs.reverse := by simp
  rw [dropEndWhile, dropEndWhile, parts, List.dropWhile_append]
  split
  · rename_i all
    rw [List.isEmpty_iff.1 all, List.dropWhile_cons_of_neg (by simp [fails])]
    simp
  · simp

/-- Nothing is dropped behind a member that fails the test. -/
theorem dropEndWhile_concat_of_neg {x : α} (fails : test x = false) (xs : List α) :
    dropEndWhile test (xs ++ [x]) = xs ++ [x] :=
  dropEndWhile_append_cons fails xs []

/-- Nothing is dropped behind members that all fail the test. -/
theorem dropEndWhile_append_of_neg {ys : List α} (nonempty : ys ≠ [])
    (fail : ∀ y ∈ ys, test y = false) (xs : List α) : dropEndWhile test (xs ++ ys) = xs ++ ys := by
  rcases List.eq_nil_or_concat ys with rfl | ⟨before, last, rfl⟩
  · exact absurd rfl nonempty
  · rw [List.concat_eq_append, ← List.append_assoc]
    exact dropEndWhile_concat_of_neg (fail last (by simp)) _

theorem dropEndWhile_of_neg {xs : List α} (fail : ∀ x ∈ xs, test x = false) :
    dropEndWhile test xs = xs := by
  rcases eq_or_ne xs [] with rfl | nonempty
  · rfl
  · exact dropEndWhile_append_of_neg nonempty fail []

/-- What fails the test is not dropped at the start. -/
theorem mem_dropWhile_of_neg {x : α} {xs : List α} (fails : test x = false) (member : x ∈ xs) :
    x ∈ xs.dropWhile test := by
  rw [← List.takeWhile_append_dropWhile (p := test) (l := xs), List.mem_append] at member
  rcases member with passes | kept
  · cases fails.symm.trans (List.mem_takeWhile_imp passes)
  · exact kept

theorem mem_dropEndWhile_of_neg {x : α} {xs : List α} (fails : test x = false) (member : x ∈ xs) :
    x ∈ dropEndWhile test xs :=
  List.mem_reverse.2 (mem_dropWhile_of_neg fails (List.mem_reverse.2 member))

/-- A character that is no blank is not trimmed. -/
theorem mem_trim {c : Char} {text : List Char} (filled : isBlank c = false) (member : c ∈ text) :
    c ∈ trim text :=
  mem_dropEndWhile_of_neg filled (mem_dropWhile_of_neg filled member)

/-! ## White space at the ends -/

/-- A text without the white space around it: blanks stand before and behind it, and it neither
begins nor ends with one. -/
def Stripped (line text : List Char) : Prop :=
  (∃ before behind, line = before ++ text ++ behind ∧ (∀ c ∈ before ++ behind, isBlank c = true)) ∧
    ∀ c, text.head? = some c ∨ text.getLast? = some c → isBlank c = false

theorem head?_dropWhile {x : α} {xs : List α} (first : (xs.dropWhile test).head? = some x) :
    test x = false := by
  have fails := List.head?_dropWhile_not test xs
  rwa [first] at fails

/-- Taking members off the front while they pass a test splits a list at the first that does not. -/
theorem takeWhile_dropWhile_iff {xs front rest : List α} :
    xs.takeWhile test = front ∧ xs.dropWhile test = rest ↔
      xs = front ++ rest ∧ (∀ x ∈ front, test x = true) ∧ ∀ x ∈ rest.head?, test x = false := by
  constructor
  · rintro ⟨rfl, rfl⟩
    refine ⟨List.takeWhile_append_dropWhile.symm, fun x member => List.mem_takeWhile_imp member,
      fun x first => head?_dropWhile first⟩
  · rintro ⟨rfl, pass, stop⟩
    rw [List.takeWhile_append_of_pos pass, List.dropWhile_append_of_pos pass]
    cases rest with
    | nil => simp
    | cons c rest =>
      have fails : test c = false := stop c rfl
      simp [fails]

/-- A list splits in one way at the first member that fails a test. -/
theorem append_cons_inj_of_test {x y : α} {front other rest back : List α}
    (same : front ++ x :: rest = other ++ y :: back)
    (pass : ∀ x ∈ front, test x = true) (fails : test x = false)
    (otherPass : ∀ x ∈ other, test x = true) (otherFails : test y = false) :
    front = other ∧ x = y ∧ rest = back := by
  have first {x : α} (fails : test x = false) (rest : List α) :
      ∀ c ∈ (x :: rest).head?, test c = false := by
    intro c head
    cases head
    exact fails
  obtain ⟨taken, left⟩ := takeWhile_dropWhile_iff.2 ⟨rfl, pass, first fails rest⟩
  obtain ⟨otherTaken, otherLeft⟩ :=
    takeWhile_dropWhile_iff.2 ⟨same, otherPass, first otherFails back⟩
  exact ⟨taken.symm.trans otherTaken, List.cons_eq_cons.1 (left.symm.trans otherLeft)⟩

theorem dropEndWhile_append_takeWhile (test : α → Bool) (xs : List α) :
    dropEndWhile test xs ++ (xs.reverse.takeWhile test).reverse = xs := by
  rw [dropEndWhile, ← List.reverse_append, List.takeWhile_append_dropWhile, List.reverse_reverse]

/-- Dropping at the end leaves the part of the list that does not end with a member that passes the
test, with only such members behind it. -/
theorem dropEndWhile_eq_iff {xs ys : List α} :
    dropEndWhile test xs = ys ↔
      (∃ zs, xs = ys ++ zs ∧ ∀ z ∈ zs, test z = true) ∧
        ∀ y, ys.getLast? = some y → test y = false := by
  constructor
  · intro dropped
    subst dropped
    refine ⟨⟨_, (dropEndWhile_append_takeWhile test xs).symm, ?_⟩, ?_⟩
    · intro z behind
      exact List.mem_takeWhile_imp (List.mem_reverse.1 behind)
    · intro y last
      rw [dropEndWhile, List.getLast?_reverse] at last
      exact head?_dropWhile last
  · intro ⟨⟨zs, split, pass⟩, fails⟩
    rw [split, dropEndWhile_append_of_pos pass]
    rcases List.eq_nil_or_concat ys with empty | ⟨inner, last, same⟩
    · subst empty
      rfl
    · rw [List.concat_eq_append] at same
      subst same
      exact dropEndWhile_concat_of_neg (fails last List.getLast?_concat) inner

/-- Blanks around a text do not matter. -/
theorem trim_append {before behind : List Char} (blank : ∀ c ∈ before ++ behind, isBlank c = true)
    (text : List Char) : trim (before ++ text ++ behind) = trim text := by
  obtain ⟨blankBefore, blankBehind⟩ := List.forall_mem_append.1 blank
  rw [trim, trim, trimStart, trimStart, List.append_assoc, List.dropWhile_append_of_pos blankBefore,
    List.dropWhile_append]
  split
  · rename_i all
    rw [List.isEmpty_iff.1 all, List.dropWhile_eq_nil_iff.2 blankBehind]
  · exact dropEndWhile_append_of_pos blankBehind _

/-- The text without the white space around it is what trimming leaves. -/
theorem stripped_iff {line text : List Char} : Stripped line text ↔ text = trim line := by
  constructor
  · rintro ⟨⟨before, behind, rfl, blank⟩, ends⟩
    rw [trim_append blank]
    have start : trimStart text = text := by
      cases text with
      | nil => rfl
      | cons c text => exact List.dropWhile_cons_of_neg (by simp [ends c (.inl rfl)])
    have whole : ∃ behind, text = text ++ behind ∧ ∀ c ∈ behind, isBlank c = true :=
      ⟨[], (List.append_nil text).symm, List.forall_mem_nil _⟩
    rw [trim, start, trimEnd]
    exact (dropEndWhile_eq_iff.2 ⟨whole, fun c last => ends c (.inr last)⟩).symm
  · rintro rfl
    obtain ⟨⟨behind, split, blank⟩, last⟩ :=
      dropEndWhile_eq_iff.1 (Eq.refl (dropEndWhile isBlank (trimStart line)))
    have front := List.takeWhile_append_dropWhile (p := isBlank) (l := line)
    refine ⟨⟨line.takeWhile isBlank, behind, ?_, ?_⟩, ?_⟩
    · rw [List.append_assoc, trim, trimEnd, ← split, trimStart, front]
    · intro c member
      rcases List.mem_append.1 member with before | behind
      · exact List.mem_takeWhile_imp before
      · exact blank c behind
    · rintro c (first | final)
      · have start : (line.dropWhile isBlank).head? = some c := by
          rw [← trimStart, split, List.head?_append, ← trimEnd, ← trim, first, Option.some_or]
        exact head?_dropWhile start
      · exact last c final

/-- A text without the white space behind it. -/
def StrippedEnd (line text : List Char) : Prop :=
  (∃ blanks, line = text ++ blanks ∧ ∀ c ∈ blanks, isBlank c = true) ∧
    ∀ c, text.getLast? = some c → isBlank c = false

theorem strippedEnd_iff {line text : List Char} : StrippedEnd line text ↔ text = trimEnd line :=
  dropEndWhile_eq_iff.symm.trans eq_comm

/-! ## Words -/

/-- White space is no part of a word. -/
theorem isWordChar_of_isBlank {c : Char} (blank : isBlank c = true) : isWordChar c = false := by
  have blanks : ∀ n ∈ [0x9, 0xA, 0xB, 0xC, 0xD, 0x20, 0x85, 0xA0, 0x1680, 0x2000, 0x2001, 0x2002,
      0x2003, 0x2004, 0x2005, 0x2006, 0x2007, 0x2008, 0x2009, 0x200A, 0x2028, 0x2029, 0x202F,
      0x205F, 0x3000], isWordChar (Char.ofNat n) = false := by decide +kernel
  rw [← Char.ofNat_toNat c]
  apply blanks
  simp only [isBlank, Bool.or_eq_true, Bool.and_eq_true, decide_eq_true_eq, beq_iff_eq] at blank
  simp only [List.mem_cons, List.not_mem_nil, or_false]
  omega

/-- What a name may begin with is part of a word. -/
theorem isWordChar_of_nameStart {c : Char} (start : c.isAlpha = true ∨ c = '_') :
    isWordChar c = true := by
  rcases start with letter | rfl
  · have most : c.val ≤ 'z'.val := by
      rcases Bool.or_eq_true_iff.1 letter with capital | small
      · have upTo : c.val ≤ 'Z'.val := (of_decide_eq_true capital).2
        exact UInt32.le_trans upTo (by decide)
      · exact of_decide_eq_true (Bool.and_eq_true_iff.1 small).2
    have ascii : c.toNat < 0x80 :=
      Nat.lt_of_le_of_lt (UInt32.le_iff_toNat_le.1 most) (by decide)
    have alphanumeric : c.isAlphanum = true := Bool.or_eq_true_iff.2 (.inl letter)
    rw [isWordChar, if_pos ascii, alphanumeric, Bool.true_or]
  · decide

/-! ## Digits -/

theorem isBlank_of_isDigit {c : Char} (digit : c.isDigit = true) : isBlank c = false := by
  have bounds : 48 ≤ c.toNat ∧ c.toNat ≤ 57 := by
    simpa [Char.isDigit, UInt32.le_iff_toNat_le] using digit
  simp [isBlank]
  omega

/-- A run of digits is trimmed down to itself, also behind a blank. -/
theorem trim_blank_digits {digits : List Char} (all : ∀ c ∈ digits, c.isDigit = true) :
    trim (' ' :: digits) = digits := by
  have blank : isBlank ' ' = true := by decide
  have start : trimStart (' ' :: digits) = digits := by
    cases digits with
    | nil => rfl
    | cons c digits => simp [trimStart, blank, isBlank_of_isDigit (all c (by simp))]
  rw [trim, start, trimEnd]
  exact dropEndWhile_of_neg fun c member => isBlank_of_isDigit (all c member)

theorem digitsValue_toDigits (n : Nat) : digitsValue (Nat.toDigits 10 n) = n :=
  Nat.ofDigitChars_ten_toDigits

theorem isDigit_of_mem_toDigits {n : Nat} {c : Char} (member : c ∈ Nat.toDigits 10 n) :
    c.isDigit = true :=
  Nat.isDigit_of_mem_toDigits (by decide) (by decide) member

theorem readNumber_eq_some_iff {bound n : Nat} {digits : List Char} :
    readNumber bound digits = some n ↔
      digits ≠ [] ∧ (∀ c ∈ digits, c.isDigit = true) ∧ n = Nat.ofDigitChars 10 digits 0 ∧
        n < bound := by
  have value : digitsValue digits = Nat.ofDigitChars 10 digits 0 := rfl
  rw [readNumber, value, Option.ite_none_right_eq_some, List.all_eq_true]
  constructor
  · intro ⟨number, same⟩
    cases same
    exact ⟨number.1, number.2.1, rfl, number.2.2⟩
  · intro ⟨nonempty, all, same, below⟩
    subst same
    exact ⟨⟨nonempty, all, below⟩, rfl⟩

/-- A number below the bound is read from its own digits. -/
theorem readNumber_toDigits {bound n : Nat} (below : n < bound) :
    readNumber bound (Nat.toDigits 10 n) = some n := by
  have all : (Nat.toDigits 10 n).all Char.isDigit = true :=
    List.all_eq_true.2 fun c member => isDigit_of_mem_toDigits member
  rw [readNumber, digitsValue_toDigits, if_pos ⟨Nat.toDigits_ne_nil, all, below⟩]

end Tutor.Text
