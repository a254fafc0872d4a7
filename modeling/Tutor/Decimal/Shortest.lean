/-!
The shortest decimal that reads back as a given binary number.

A finite positive double is `m * 2 ^ q`. The reals that round to it form an interval around it,
its ends included when `m` is even. Of the decimals with the fewest digits within the interval,
the one nearest to the number is taken. All is done in whole numbers.
-/

namespace Tutor

/-- The number `digits * 10 ^ exponent`. -/
structure Decimal where
  digits : Nat
  exponent : Int
  deriving DecidableEq, Repr

namespace Decimal

/-- An interval of positive numbers and a number within it, as fractions with one denominator. -/
structure Target where
  low : Nat
  value : Nat
  high : Nat
  denominator : Nat
  /-- Whether the ends belong to the interval. -/
  closed : Bool

/-- The numbers that round to `m * 2 ^ q`. The gap below is half as wide where `m` is the least
that its exponent admits (`narrowBelow`). -/
def Target.ofBinary (m : Nat) (q : Int) (narrowBelow : Bool) : Target :=
  let scale := Nat.pow 2 (q - 2).toNat
  { low := (4 * m - (if narrowBelow then 1 else 2)) * scale
    value := 4 * m * scale
    high := (4 * m + 2) * scale
    denominator := Nat.pow 2 (2 - q).toNat
    closed := m % 2 == 0 }

/-- Whether `n / denominator` lies in the interval. -/
def Target.admits (t : Target) (n : Nat) : Bool :=
  if t.closed then t.low ≤ n && n ≤ t.high else t.low < n && n < t.high

/-- The number in units of `10 ^ exponent`. -/
def Target.inUnits (t : Target) (exponent : Int) : Target :=
  let up := Nat.pow 10 (-exponent).toNat
  { t with
    low := t.low * up
    value := t.value * up
    high := t.high * up
    denominator := t.denominator * Nat.pow 10 exponent.toNat }

/-- The multiple of `10 ^ exponent` next to the number that the interval admits, if there is one;
of two at equal distance the even one. -/
def Target.nearest? (t : Target) (exponent : Int) : Option Nat :=
  let u := t.inUnits exponent
  let below := u.value / u.denominator
  let above := below + 1
  let twice := 2 * (u.value - below * u.denominator)
  let belowFirst := twice < u.denominator || (twice == u.denominator && below % 2 == 0)
  let fitsBelow := u.admits (below * u.denominator)
  let fitsAbove := u.admits (above * u.denominator)
  if fitsBelow && (belowFirst || !fitsAbove) then some below
  else if fitsAbove then some above
  else none

/-- The exponent of the leading decimal digit of `n / d`. -/
def leadingExponent (n d : Nat) : Int :=
  if d ≤ n then ((Nat.toDigits 10 (n / d)).length : Int) - 1
  else
    let small := (Nat.toDigits 10 (d / n)).length
    if d ≤ n * Nat.pow 10 (small - 1) then -((small : Int) - 1) else -(small : Int)

/-- Tries one digit, two digits and so on up to `tries` digits more than `used`. -/
def Target.shortest (t : Target) (lead : Int) (used : Nat) : Nat → Decimal
  | 0 => ⟨t.value / t.denominator, 0⟩
  | tries + 1 =>
    match t.nearest? (lead - used) with
    | some digits => ⟨digits, lead - used⟩
    | none => t.shortest lead (used + 1) tries

/-- Moves the zeros at the end of the digits into the exponent, at most `bound` of them. -/
def dropZeros (d : Decimal) : Nat → Decimal
  | 0 => d
  | bound + 1 =>
    if d.digits ≠ 0 ∧ d.digits % 10 = 0 then
      dropZeros ⟨d.digits / 10, d.exponent + 1⟩ bound
    else d

/-- The bit of a double that its 52 stored bits leave out. -/
def hiddenBit : Nat := 0x10000000000000

/-- The shortest decimal for the double with these bits, sign aside; zero for zero. Seventeen
digits are always enough. -/
def ofBits (bits : UInt64) : Decimal :=
  let fraction : Nat := bits.toNat % hiddenBit
  let power : Nat := bits.toNat / hiddenBit % 0x800
  if power = 0 ∧ fraction = 0 then ⟨0, 0⟩
  else
    let m := if power = 0 then fraction else hiddenBit + fraction
    let q : Int := if power = 0 then -1074 else (power : Int) - 1075
    let t := Target.ofBinary m q (fraction = 0 && 1 < power)
    (t.shortest (leadingExponent t.value t.denominator) 0 17).dropZeros 17

end Decimal

end Tutor
