import Mathlib.Data.List.TakeWhile
import Tutor.Json.Numeral
import Tutor.Proofs.Text.Blank

/-!
The text of a number.

`NumeralText` says which texts are numbers, and what their parts are; the reader accepts exactly
these (`Numeral.read?_iff`). `NumberText` adds the value: a number that is written as a whole number
and fits a 64-bit word keeps it (`Numeral.IsWhole`). Such numbers are read back from their digits
(`NumberText.intDigits`).
-/

namespace Tutor.Json

/-! ## Runs of characters -/

/-- ASCII digits, at least one. -/
def IsDigits (digits : List Char) : Prop := digits ≠ [] ∧ ∀ c ∈ digits, c.isDigit = true

theorem isDigits_iff {digits : List Char} :
    IsDigits digits ↔ (digits.isEmpty || !digits.all Char.isDigit) = false := by
  rw [IsDigits, Bool.or_eq_false_iff, List.isEmpty_eq_false_iff, Bool.not_eq_false',
    List.all_eq_true]

theorem IsDigits.head_ne {digits : List Char} (isDigits : IsDigits digits) {c : Char}
    (other : c.isDigit = false) (rest : List Char) : (digits ++ rest).head? ≠ some c := by
  obtain ⟨d, digits, rfl⟩ := List.exists_cons_of_ne_nil isDigits.1
  rintro ⟨⟩
  cases other.symm.trans (isDigits.2 c List.mem_cons_self)

/-! ## The text of a number -/

/-- Nothing, or a point in front of digits. -/
inductive FractionText : List Char → List Char → Prop
  | absent : FractionText [] []
  | digits {digits : List Char} : IsDigits digits → FractionText ('.' :: digits) digits

/-- A sign, which may be left out, and whether it is the minus sign. -/
inductive SignText : List Char → Bool → Prop
  | absent : SignText [] false
  | plus : SignText ['+'] false
  | minus : SignText ['-'] true

/-- Nothing, or a letter in front of digits with a sign. -/
inductive PowerText : List Char → Option Int → Prop
  | absent : PowerText [] none
  | digits {letter : Char} {sign digits : List Char} {negative : Bool} :
    letter = 'e' ∨ letter = 'E' → SignText sign negative → IsDigits digits →
    PowerText (letter :: (sign ++ digits))
      (some (if negative then -(Text.digitsValue digits : Int) else Text.digitsValue digits))

/-- The text of a number: a minus sign or none, digits that begin with a zero only if there is no
other, a fraction and a power of ten. -/
inductive NumeralText : List Char → Numeral → Prop
  | mk {negative : Bool} {whole fractionText fraction powerText : List Char} {power : Option Int} :
    IsDigits whole → (whole.head? = some '0' → whole.length = 1) →
    FractionText fractionText fraction → PowerText powerText power →
    NumeralText ((if negative then ['-'] else []) ++ (whole ++ (fractionText ++ powerText)))
      ⟨negative, whole, fraction, power⟩

theorem takeMinus_of_head_ne {text : List Char} (other : text.head? ≠ some '-') :
    takeMinus text = (false, text) := by
  unfold takeMinus
  split
  · exact absurd rfl other
  · rfl

theorem eq_append_of_takeMinus {text rest : List Char} {negative : Bool}
    (read : takeMinus text = (negative, rest)) :
    text = (if negative then ['-'] else []) ++ rest := by
  unfold takeMinus at read
  split at read <;> cases read <;> rfl

theorem readPower_of_text {text : List Char} {power : Option Int} (isPower : PowerText text power) :
    readPower text = some power := by
  cases isPower with
  | absent => rfl
  | @digits letter sign digits negative isLetter signed isDigits =>
    have letterFits : ¬ (letter ≠ 'e' ∧ letter ≠ 'E') := by
      rcases isLetter with rfl | rfl <;> decide
    have digitsFit := isDigits_iff.1 isDigits
    unfold readPower
    simp only [if_neg letterFits]
    cases signed with
    | plus => simp [digitsFit]
    | minus => simp [takeMinus, digitsFit]
    | absent =>
      have noMinus : digits.head? ≠ some '-' := by
        rw [← List.append_nil digits]
        exact isDigits.head_ne rfl []
      rw [List.nil_append]
      split
      · cases isDigits.2 '+' List.mem_cons_self
      · rw [takeMinus_of_head_ne noMinus]
        simp [digitsFit]

theorem powerText_of_readPower {text : List Char} {power : Option Int}
    (read : readPower text = some power) : PowerText text power := by
  unfold readPower at read
  split at read
  · cases read
    exact .absent
  · rename_i letter rest
    split at read
    · cases read
    rename_i isLetter
    split at read
    rename_i negative digits parts
    split at read
    · cases read
    rename_i isDigits
    cases read
    have letterFits : letter = 'e' ∨ letter = 'E' := by
      by_contra other
      exact isLetter (not_or.1 other)
    have digitsFit := isDigits_iff.2 (Bool.not_eq_true _ ▸ isDigits)
    split at parts
    · cases parts
      exact .digits letterFits .plus digitsFit
    · rw [eq_append_of_takeMinus parts]
      cases negative with
      | true => exact .digits letterFits .minus digitsFit
      | false => exact .digits letterFits .absent digitsFit

/-- A power of ten begins with its letter, so neither digits nor a point run on into it. -/
theorem PowerText.head {text : List Char} {power : Option Int} (isPower : PowerText text power) :
    ∀ c ∈ text.head?, c.isDigit = false ∧ c ≠ '.' := by
  cases isPower with
  | absent => exact nofun
  | digits isLetter =>
    rintro _ ⟨⟩
    rcases isLetter with rfl | rfl <;> decide

theorem takeFraction_append {text digits rest : List Char} (isFraction : FractionText text digits)
    (behind : ∀ c ∈ rest.head?, c.isDigit = false ∧ c ≠ '.') :
    takeFraction (text ++ rest) = some (digits, rest) := by
  cases isFraction with
  | absent =>
    rw [List.nil_append]
    unfold takeFraction
    split
    · exact absurd rfl (behind '.' rfl).2
    · rfl
  | digits isDigits =>
    obtain ⟨taken, left⟩ := Text.takeWhile_dropWhile_iff.2
      ⟨rfl, isDigits.2, fun c first => (behind c first).1⟩
    rw [List.cons_append, takeFraction]
    simp only [taken, left]
    rw [if_neg (by simpa using isDigits.1)]

theorem fractionText_of_takeFraction {text digits rest : List Char}
    (read : takeFraction text = some (digits, rest)) :
    ∃ front, FractionText front digits ∧ text = front ++ rest := by
  unfold takeFraction at read
  split at read
  · rename_i text
    obtain ⟨split, pass, -⟩ := Text.takeWhile_dropWhile_iff.1
      (⟨rfl, rfl⟩ : text.takeWhile Char.isDigit = _ ∧ text.dropWhile Char.isDigit = _)
    simp only at read
    split at read
    · cases read
    · rename_i some
      cases read
      exact ⟨_, .digits ⟨by simpa using some, pass⟩, by rw [List.cons_append, ← split]⟩
  · cases read
    exact ⟨[], .absent, rfl⟩

/-- The text of a number is read as its parts. -/
theorem NumeralText.read? {text : List Char} {numeral : Numeral}
    (isText : NumeralText text numeral) : Numeral.read? text = some numeral := by
  cases isText with
  | @mk negative whole fractionText fraction powerText power isDigits leading isFraction isPower =>
  have sign :
      takeMinus ((if negative then ['-'] else []) ++ (whole ++ (fractionText ++ powerText))) =
      (negative, whole ++ (fractionText ++ powerText)) := by
    cases negative with
    | true => rfl
    | false => exact takeMinus_of_head_ne (isDigits.head_ne rfl _)
  have behind : ∀ c ∈ (fractionText ++ powerText).head?, c.isDigit = false := by
    cases isFraction with
    | absent => exact fun c first => (isPower.head c first).1
    | digits =>
      rintro _ ⟨⟩
      rfl
  obtain ⟨taken, left⟩ := Text.takeWhile_dropWhile_iff.2 ⟨rfl, isDigits.2, behind⟩
  have lead : (whole.isEmpty || (whole.head? == some '0' && whole.length ≠ 1)) = false := by
    rw [Bool.or_eq_false_iff, List.isEmpty_eq_false_iff]
    refine ⟨isDigits.1, ?_⟩
    simpa using leading
  rw [Numeral.read?, sign]
  simp only [taken, left, lead]
  rw [if_neg Bool.false_ne_true, takeFraction_append isFraction isPower.head]
  simp [readPower_of_text isPower]

/-- Nothing else is read as a number. -/
theorem Numeral.text_of_read? {text : List Char} {numeral : Numeral}
    (read : Numeral.read? text = some numeral) : NumeralText text numeral := by
  unfold Numeral.read? at read
  split at read
  rename_i negative rest sign
  simp only at read
  split at read
  · cases read
  rename_i lead
  obtain ⟨⟨fraction, behind⟩, fractionRead, read⟩ := Option.bind_eq_some_iff.1 read
  obtain ⟨power, powerRead, read⟩ := Option.bind_eq_some_iff.1 read
  cases read
  obtain ⟨fractionText, isFraction, same⟩ := fractionText_of_takeFraction fractionRead
  obtain ⟨split, pass, -⟩ := Text.takeWhile_dropWhile_iff.1
    (⟨rfl, rfl⟩ : rest.takeWhile Char.isDigit = _ ∧ rest.dropWhile Char.isDigit = _)
  simp only [Bool.or_eq_true, Bool.and_eq_true, List.isEmpty_iff, not_or, not_and] at lead
  have leading : (rest.takeWhile Char.isDigit).head? = some '0' →
      (rest.takeWhile Char.isDigit).length = 1 := fun zero => by
    simpa using lead.2 (by rw [zero]; rfl)
  have whole : text = (if negative then ['-'] else []) ++
      (rest.takeWhile Char.isDigit ++ (fractionText ++ behind)) := by
    rw [eq_append_of_takeMinus sign, ← same, ← split]
  rw [whole]
  exact .mk ⟨lead.1, pass⟩ leading isFraction (powerText_of_readPower powerRead)

theorem Numeral.read?_iff {text : List Char} {numeral : Numeral} :
    Numeral.read? text = some numeral ↔ NumeralText text numeral :=
  ⟨Numeral.text_of_read?, NumeralText.read?⟩

/-! ## The value of a number -/

/-- A whole number that a 64-bit word can hold, unsigned or signed. -/
def Number.IsWord : Number → Prop
  | .whole n => -(Text.wordBound / 2 : Nat) ≤ n ∧ n < Text.wordBound
  | .real _ => False

/-- A number that is written without a fraction and a power, and that a 64-bit word can hold. Minus
zero is none. -/
def Numeral.IsWhole (numeral : Numeral) (n : Int) : Prop :=
  numeral.fraction = [] ∧ numeral.power = none ∧ (Number.whole n).IsWord ∧
    if numeral.negative then n = -(Text.digitsValue numeral.whole : Int) ∧ n ≠ 0
    else n = Text.digitsValue numeral.whole

theorem Numeral.toWhole?_iff {numeral : Numeral} {n : Int} :
    numeral.toWhole? = some n ↔ numeral.IsWhole n := by
  obtain ⟨negative, whole, fraction, power⟩ := numeral
  unfold toWhole? IsWhole Number.IsWord
  simp only
  by_cases plain : fraction = [] ∧ power = none
  · obtain ⟨rfl, rfl⟩ := plain
    rw [if_neg (by simp)]
    cases negative with
    | true =>
      simp only [if_true, true_and]
      split
      · rw [Option.some_inj]
        omega
      · exact iff_of_false nofun (by omega)
    | false =>
      simp only [Bool.false_eq_true, if_false, true_and]
      split
      · rw [Option.some_inj]
        omega
      · exact iff_of_false nofun (by omega)
  · rw [if_pos]
    · exact iff_of_false nofun fun whole => plain ⟨whole.1, whole.2.1⟩
    · cases fraction <;> cases power <;> simp_all

/-- A text is that of a number with this value. -/
inductive NumberText : List Char → Number → Prop
  | whole {text : List Char} {numeral : Numeral} {n : Int} :
    NumeralText text numeral → numeral.IsWhole n → NumberText text (.whole n)
  | real {text : List Char} {numeral : Numeral} {x : Float} :
    NumeralText text numeral → (∀ n, ¬ numeral.IsWhole n) → numeral.toReal? = some x →
    NumberText text (.real x)

theorem Number.read?_iff {text : List Char} {n : Number} :
    Number.read? text = some n ↔ NumberText text n := by
  constructor
  · intro read
    obtain ⟨numeral, parts, value⟩ := Option.bind_eq_some_iff.1 read
    have isText := Numeral.read?_iff.1 parts
    split at value
    · rename_i n whole
      cases value
      exact .whole isText (Numeral.toWhole?_iff.1 whole)
    · rename_i noWhole
      obtain ⟨x, real, value⟩ := Option.bind_eq_some_iff.1 value
      cases value
      refine .real isText (fun n whole => ?_) real
      cases noWhole.symm.trans (Numeral.toWhole?_iff.2 whole)
  · intro isText
    cases isText with
    | whole isText whole =>
      rw [Number.read?, Numeral.read?_iff.2 isText, Option.bind_eq_bind, Option.bind_some,
        Numeral.toWhole?_iff.2 whole]
      rfl
    | @real numeral x isText noWhole real =>
      have none : numeral.toWhole? = none :=
        Option.eq_none_iff_forall_ne_some.2 fun n whole => noWhole n (Numeral.toWhole?_iff.1 whole)
      rw [Number.read?, Numeral.read?_iff.2 isText, Option.bind_eq_bind, Option.bind_some, none]
      simp [real]

/-! ## Numbers that were written -/

theorem natDigits_head?_ne {n : Nat} (positive : 0 < n) : (natDigits n).head? ≠ some '0' := by
  rw [natDigits]
  by_cases small : n < 10
  · -- A single digit.
    rw [Nat.toDigits_of_lt_base small]
    have differ : ∀ digit < 10, 0 < digit → [digit.digitChar].head? ≠ some '0' := by decide
    exact differ n small positive
  · -- The digits begin with those of the tens, of which there are some.
    have tens : 0 < n / 10 := by omega
    have shorter : n / 10 < n := by omega
    have leads := natDigits_head?_ne tens
    rw [natDigits] at leads
    rw [Nat.toDigits_of_base_le (by decide) (Nat.not_lt.1 small), List.head?_append]
    obtain ⟨c, isHead⟩ := Option.isSome_iff_exists.1
      (List.isSome_head?.2 (Nat.toDigits_ne_nil (n := n / 10) (b := 10)))
    rw [isHead] at leads ⊢
    exact leads
termination_by n

theorem isDigit_of_mem_natDigits {n : Nat} {c : Char} (member : c ∈ natDigits n) :
    c.isDigit = true :=
  Text.isDigit_of_mem_toDigits member

/-- A minus sign, if there is one, and the digits of a number are the parts of its text. -/
theorem NumeralText.natDigits (negative : Bool) (n : Nat) :
    NumeralText ((if negative then ['-'] else []) ++ natDigits n)
      ⟨negative, natDigits n, [], none⟩ := by
  have isDigits : IsDigits (Json.natDigits n) :=
    ⟨Nat.toDigits_ne_nil, fun c member => isDigit_of_mem_natDigits member⟩
  have leading : (Json.natDigits n).head? = some '0' → (Json.natDigits n).length = 1 := by
    intro zero
    rcases Nat.eq_zero_or_pos n with rfl | positive
    · rfl
    · exact absurd zero (natDigits_head?_ne positive)
  have isText : NumeralText ((if negative then ['-'] else []) ++ (Json.natDigits n ++ ([] ++ [])))
      ⟨negative, Json.natDigits n, [], none⟩ := mk isDigits leading .absent .absent
  rwa [List.append_nil, List.append_nil] at isText

/-- A whole number is read back from its digits. -/
theorem NumberText.intDigits {n : Int} (word : (Number.whole n).IsWord) :
    NumberText (intDigits n) (.whole n) := by
  have digits (n : Nat) : Text.digitsValue (natDigits n) = n := Text.digitsValue_toDigits n
  cases n with
  | ofNat n =>
    exact .whole (.natDigits false n) ⟨rfl, rfl, word, congrArg Int.ofNat (digits n).symm⟩
  | negSucc n =>
    refine .whole (.natDigits true (n + 1)) ⟨rfl, rfl, word, ?_, nofun⟩
    simp only [digits]
    rfl

end Tutor.Json
