import Tutor.Decimal.Shortest
import Tutor.Json.Value
import Tutor.Text.Digit

/-!
JSON numbers as text.

A whole number that fits a 64-bit word, unsigned or signed, keeps its value. Any other becomes a
double: its digits are taken into a 64-bit word as long as they fit, and the word is then
multiplied with or divided by a power of ten. Doubles are written with the fewest digits that
read back.
-/

namespace Tutor.Json

/-! ## Reading -/

/-- The parts of a number's text. -/
structure Numeral where
  negative : Bool
  /-- Digits before the point. -/
  whole : List Char
  /-- Digits behind the point, none where there is no point. -/
  fraction : List Char
  /-- The power of ten behind the letter, if there is one. -/
  power : Option Int

/-- Takes a sign off the front: whether it is the minus sign, and the rest. -/
def takeMinus : List Char → Bool × List Char
  | '-' :: rest => (true, rest)
  | text => (false, text)

/-- Takes a point and at least one digit off the front, if there is a point. -/
def takeFraction : List Char → Option (List Char × List Char)
  | '.' :: rest =>
    let digits := rest.takeWhile Char.isDigit
    if digits.isEmpty then none else some (digits, rest.dropWhile Char.isDigit)
  | text => some ([], text)

/-- Reads the power of ten that is the whole of what follows the digits. -/
def readPower : List Char → Option (Option Int)
  | [] => some none
  | letter :: rest =>
    if letter ≠ 'e' ∧ letter ≠ 'E' then none
    else
      let (negative, digits) := match rest with
        | '+' :: digits => (false, digits)
        | digits => takeMinus digits
      if digits.isEmpty || !digits.all Char.isDigit then none
      else
        let size : Int := Text.digitsValue digits
        some (some (if negative then -size else size))

/-- Reads the text of a number. Its digits before the point begin with a zero only if that is the
only one. -/
def Numeral.read? (text : List Char) : Option Numeral := do
  let (negative, text) := takeMinus text
  let whole := text.takeWhile Char.isDigit
  if whole.isEmpty || (whole.head? == some '0' && whole.length ≠ 1) then none
  else
    let (fraction, text) ← takeFraction (text.dropWhile Char.isDigit)
    let power ← readPower text
    return ⟨negative, whole, fraction, power⟩

/-- Takes digits into a 64-bit word up to the first that does not fit; gives back the word and
the number of digits left. -/
def takeDigits (word : Nat) : List Char → Nat × Nat
  | [] => (word, 0)
  | c :: rest =>
    let next := 10 * word + (c.toNat - '0'.toNat)
    if next < Text.wordBound then takeDigits next rest else (word, (c :: rest).length)

/-- The double nearest to a power of ten. -/
def tenTo (n : Nat) : Float := Float.ofScientific 1 false n

/-- Divides by `10 ^ n`, by `10 ^ 308` at a time while the power is too large for one double. -/
def divideByTens (x : Float) (n : Nat) : Float :=
  if n ≤ 308 then x / tenTo n
  else if x == 0 then x
  else divideByTens (x / tenTo 308) (n - 308)
termination_by n

/-- The double for `word * 10 ^ power`; none where it would be infinite. -/
def scaleByTens (word : Nat) (power : Int) : Option Float :=
  let x := (UInt64.ofNat word).toFloat
  match power with
  | .ofNat n =>
    if n ≤ 308 then
      let y := x * tenTo n
      if y.isInf then none else some y
    else if x == 0 then some x
    else none
  | .negSucc n => some (divideByTens x (n + 1))

/-- The number as a double. -/
def Numeral.toReal? (n : Numeral) : Option Float := do
  let (word, wholeLeft) := takeDigits 0 n.whole
  let (word, fractionLeft) := takeDigits word n.fraction
  let taken : Int := (n.fraction.length : Int) - fractionLeft
  let x ← scaleByTens word ((wholeLeft : Int) - taken + n.power.getD 0)
  return if n.negative then -x else x

/-- The number as a whole number, where it is written as one and fits a 64-bit word. Minus zero is
no whole number. -/
def Numeral.toWhole? (n : Numeral) : Option Int :=
  let size := Text.digitsValue n.whole
  if !n.fraction.isEmpty || n.power.isSome then none
  else if n.negative then
    if 0 < size ∧ size ≤ Text.wordBound / 2 then some (-(size : Int)) else none
  else if size < Text.wordBound then some size
  else none

/-- Reads a number from the whole of a text; none also where it is too large for a double. -/
def Number.read? (text : List Char) : Option Number := do
  let numeral ← Numeral.read? text
  match numeral.toWhole? with
  | some n => return .whole n
  | none => return .real (← numeral.toReal?)

/-! ## Writing -/

/-- The digits of a natural number. -/
def natDigits (n : Nat) : List Char := Nat.toDigits 10 n

/-- The digits of an integer, with a minus sign before a negative one. -/
def intDigits : Int → List Char
  | .ofNat n => natDigits n
  | .negSucc n => '-' :: natDigits (n + 1)

/-- Doubles whose leading digit stands between these powers of ten are written without a power. -/
def plainPowers : Int × Int := (-5, 15)

/-- Writes a decimal with at least one digit on each side of the point, or with one digit before
the point and a signed power of ten behind. -/
def renderDecimal (d : Decimal) : List Char :=
  let digits := natDigits d.digits
  let lead : Int := d.exponent + digits.length - 1
  if d.digits = 0 then ['0', '.', '0']
  else if plainPowers.1 ≤ lead ∧ lead ≤ plainPowers.2 then
    if 0 ≤ d.exponent then digits ++ List.replicate d.exponent.toNat '0' ++ ['.', '0']
    else if 0 ≤ lead then
      digits.take (lead.toNat + 1) ++ '.' :: digits.drop (lead.toNat + 1)
    else '0' :: '.' :: List.replicate (-lead - 1).toNat '0' ++ digits
  else
    let tail := digits.drop 1
    digits.take 1 ++ (if tail.isEmpty then [] else '.' :: tail) ++
      'e' :: (if 0 ≤ lead then ['+'] else []) ++ intDigits lead

/-- The text of a number. -/
def Number.render : Number → List Char
  | .whole n => intDigits n
  | .real x =>
    let bits := x.toBits
    (if bits.toNat / (Text.wordBound / 2) = 1 then ['-'] else []) ++ renderDecimal (Decimal.ofBits bits)

end Tutor.Json
