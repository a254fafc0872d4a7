/-!
UTF-8: writing characters as bytes, and reading bytes that may be damaged.

A reader goes through the bytes once. Where the bytes are no text it reports one fault for each
maximal run of bytes that begin a character without completing it, and for each byte that cannot
begin one. `Utf8.read?` refuses faults; `Utf8.readLossy` puts the replacement character U+FFFD
in the place of each.
-/

namespace Tutor.Utf8

/-! ## Writing -/

/-- The bytes of one character. -/
def encodeChar (c : Char) : List UInt8 :=
  let n := c.toNat
  if n < 0x80 then [.ofNat n]
  else if n < 0x800 then [.ofNat (0xC0 + n / 0x40), .ofNat (0x80 + n % 0x40)]
  else if n < 0x10000 then
    [.ofNat (0xE0 + n / 0x1000), .ofNat (0x80 + n / 0x40 % 0x40), .ofNat (0x80 + n % 0x40)]
  else
    [.ofNat (0xF0 + n / 0x40000), .ofNat (0x80 + n / 0x1000 % 0x40),
      .ofNat (0x80 + n / 0x40 % 0x40), .ofNat (0x80 + n % 0x40)]

/-- The bytes of a text. -/
def encode (text : List Char) : List UInt8 := text.flatMap encodeChar

/-! ## Reading -/

/-- What the reader is in the middle of. -/
inductive Progress
  /-- Between two characters. -/
  | fresh
  /-- Within a character: the next byte lies between `low` and `high`, then `more` bytes follow,
  and `value` holds the bits read so far. -/
  | within (value more low high : Nat)

/-- What a byte at the start of a character means: a whole character, the first byte of a longer
one, or a fault. The bounds on the second byte exclude overlong forms, surrogates and values
above U+10FFFF. -/
def lead (byte : Nat) : List (Option Char) × Progress :=
  if byte < 0x80 then ([some (Char.ofNat byte)], .fresh)
  else if 0xC2 ≤ byte ∧ byte ≤ 0xDF then ([], .within (byte - 0xC0) 0 0x80 0xBF)
  else if byte = 0xE0 then ([], .within 0 1 0xA0 0xBF)
  else if byte = 0xED then ([], .within 0xD 1 0x80 0x9F)
  else if 0xE1 ≤ byte ∧ byte ≤ 0xEF then ([], .within (byte - 0xE0) 1 0x80 0xBF)
  else if byte = 0xF0 then ([], .within 0 2 0x90 0xBF)
  else if 0xF1 ≤ byte ∧ byte ≤ 0xF3 then ([], .within (byte - 0xF0) 2 0x80 0xBF)
  else if byte = 0xF4 then ([], .within 4 2 0x80 0x8F)
  else ([none], .fresh)

/-- Reads one byte: the characters and faults (`none`) that it completes, and the progress after
it. A byte that does not continue a character is read anew behind the fault. -/
def step : Progress → UInt8 → List (Option Char) × Progress
  | .fresh, byte => lead byte.toNat
  | .within value more low high, byte =>
    if low ≤ byte.toNat ∧ byte.toNat ≤ high then
      let value := 0x40 * value + (byte.toNat - 0x80)
      match more with
      | 0 => ([some (Char.ofNat value)], .fresh)
      | more + 1 => ([], .within value more 0x80 0xBF)
    else
      (none :: (lead byte.toNat).1, (lead byte.toNat).2)

/-- What the end of the bytes means: a fault within a character. -/
def finish : Progress → List (Option Char)
  | .fresh => []
  | .within .. => [none]

/-- Reads the bytes from some progress on; `before` holds in reverse what has been read. -/
def readFrom (before : List (Option Char)) : Progress → List UInt8 → List (Option Char)
  | progress, [] => before.reverse ++ finish progress
  | progress, byte :: bytes =>
    readFrom ((step progress byte).1.reverse ++ before) (step progress byte).2 bytes

/-- The characters and faults of some bytes, in order. -/
def read (bytes : List UInt8) : List (Option Char) := readFrom [] .fresh bytes

/-- The text that the bytes encode, if they encode one. -/
def read? (bytes : List UInt8) : Option (List Char) :=
  let pieces := read bytes
  if pieces.all Option.isSome then some (pieces.filterMap id) else none

/-- The text of the bytes with U+FFFD for each fault. -/
def readLossy (bytes : List UInt8) : List Char :=
  (read bytes).map (·.getD '\uFFFD')

end Tutor.Utf8
