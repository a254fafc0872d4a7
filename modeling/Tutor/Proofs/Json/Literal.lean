import Mathlib.Tactic.SplitIfs
import Tutor.Json.Reader
import Tutor.Proofs.Text.Decoding

/-!
The JSON strings that stand for a text.

A text has many JSON strings: each of its characters may stand for itself, be escaped by a letter,
or be given by the numbers of its 16-bit units. `Spells` says what may stand between the quotation
marks. Just this is read as a string (`scanText_iff`), and it stays on its line (`Spells.visible`);
both the printer of this library and one that writes nothing beyond ASCII produce such strings.
-/

namespace Tutor.Json

/-- What may stand between the quotation marks of a JSON string for a text. -/
inductive Spells : List Char → List Char → Prop
  | nil : Spells [] []
  /-- A character stands for itself. -/
  | plain {c : Char} {body text : List Char} (visible : 0x20 ≤ c.toNat) (noQuote : c ≠ '"')
      (noBackslash : c ≠ '\\') (rest : Spells body text) : Spells (c :: body) (c :: text)
  /-- A letter behind a backslash. -/
  | letter {l c : Char} {body text : List Char} (means : unescape l = some c)
      (rest : Spells body text) : Spells ('\\' :: l :: body) (c :: text)
  /-- The number of a character. -/
  | unit {c : Char} {digits body text : List Char} (small : c.toNat < 0x10000)
      (four : digits.length = 4) (number : Text.readHex digits = some c.toNat)
      (rest : Spells body text) : Spells ('\\' :: 'u' :: (digits ++ body)) (c :: text)
  /-- The numbers of the two halves of a surrogate pair. -/
  | pair {c : Char} {first second body text : List Char} (beyond : 0x10000 ≤ c.toNat)
      (fourFirst : first.length = 4) (fourSecond : second.length = 4)
      (numberFirst : Text.readHex first = some (0xD800 + (c.toNat - 0x10000) / 0x400))
      (numberSecond : Text.readHex second = some (0xDC00 + (c.toNat - 0x10000) % 0x400))
      (rest : Spells body text) :
      Spells ('\\' :: 'u' :: (first ++ '\\' :: 'u' :: (second ++ body))) (c :: text)

/-- A text between quotation marks. -/
def quote (body : List Char) : List Char := '"' :: body ++ ['"']

/-! ## Reading hexadecimal digits -/

theorem hexValue_hexDigit : ∀ n < 16, Text.hexValue (hexDigit n) = some n := by decide

/-- Four hexadecimal digits, the most significant first. -/
def hexUnit (n : Nat) : List Char :=
  [hexDigit (n / 0x1000), hexDigit (n / 0x100 % 16), hexDigit (n / 16 % 16), hexDigit (n % 16)]

theorem readHex_hexUnit {n : Nat} (small : n < 0x10000) :
    Text.readHex (hexUnit n) = some n := by
  have whole : 16 * (16 * (16 * (n / 0x1000) + n / 0x100 % 16) + n / 16 % 16) + n % 16 = n := by
    omega
  rw [hexUnit, Text.readHex]
  simp only [List.foldlM_cons, List.foldlM_nil, hexValue_hexDigit (n / 0x1000) (by omega),
    hexValue_hexDigit _ (Nat.mod_lt _ (by decide : 0 < 16))]
  simp [whole]

theorem hexValue_visible {c : Char} {n : Nat} (value : Text.hexValue c = some n) :
    0x20 ≤ c.toNat := by
  unfold Text.hexValue at value
  split at value
  · rename_i digit
    simp only [Char.isDigit, Bool.and_eq_true, decide_eq_true_eq] at digit
    exact Nat.le_trans (by decide) (UInt32.le_iff_toNat_le.1 digit.1)
  · split at value
    · rename_i small
      exact Nat.le_trans (by decide) (UInt32.le_iff_toNat_le.1 small.1)
    · split at value
      · rename_i capital
        exact Nat.le_trans (by decide) (UInt32.le_iff_toNat_le.1 capital.1)
      · cases value

theorem readHex_visible {digits : List Char} {n : Nat} (number : Text.readHex digits = some n) :
    ∀ c ∈ digits, 0x20 ≤ c.toNat := by
  unfold Text.readHex at number
  generalize 0 = start at number
  induction digits generalizing start with
  | nil => simp
  | cons d digits ih =>
    rw [List.foldlM_cons] at number
    rcases value : Text.hexValue d with _ | v
    · rw [value] at number
      cases number
    · rw [value] at number
      intro c member
      rcases List.mem_cons.1 member with rfl | member
      · exact hexValue_visible value
      · exact ih _ number c member

theorem hexValue_lt {c : Char} {n : Nat} (value : Text.hexValue c = some n) : n < 16 := by
  have bounds {low high : Char} (least : low ≤ c) (most : c ≤ high) :
      low.toNat ≤ c.toNat ∧ c.toNat ≤ high.toNat :=
    ⟨UInt32.le_iff_toNat_le.1 least, UInt32.le_iff_toNat_le.1 most⟩
  unfold Text.hexValue at value
  split at value
  · rename_i digit
    simp only [Char.isDigit, Bool.and_eq_true, decide_eq_true_eq] at digit
    have within : ('0' : Char).toNat ≤ c.toNat ∧ c.toNat ≤ ('9' : Char).toNat :=
      bounds digit.1 digit.2
    simp at within value
    omega
  · split at value
    · rename_i small
      have within := bounds small.1 small.2
      simp at within value
      omega
    · split at value
      · rename_i capital
        have within := bounds capital.1 capital.2
        simp at within value
        omega
      · cases value

/-- Four digits give a 16-bit unit. -/
theorem readHex_lt {digits : List Char} {n : Nat} (four : digits.length = 4)
    (number : Text.readHex digits = some n) : n < 0x10000 := by
  -- Each digit makes the number at most sixteen times as large.
  have below : ∀ (digits : List Char) (bound start n : Nat), start < bound →
      digits.foldlM (fun n c => (Text.hexValue c).map (16 * n + ·)) start = some n →
      n < digits.foldl (fun bound _ => 16 * bound) bound := by
    intro digits
    induction digits with
    | nil =>
      intro bound start n small number
      cases number
      exact small
    | cons d digits ih =>
      intro bound start n small number
      rw [List.foldlM_cons] at number
      obtain ⟨next, value, number⟩ := Option.bind_eq_some_iff.1 number
      obtain ⟨v, digit, rfl⟩ := Option.map_eq_some_iff.1 value
      have below := hexValue_lt digit
      have larger : 16 * start + v < 16 * bound := by omega
      exact ih _ _ n larger number
  match digits, four with
  | [_, _, _, _], _ => exact below _ 1 0 n Nat.one_pos number

/-! ## Reading one string -/

theorem scanText_unit {half half' : Option Nat} {before before' digits rest : List Char}
    {unit : Nat} (four : digits.length = 4) (number : Text.readHex digits = some unit)
    (joined : joinUnit half before unit = some (half', before')) :
    scanText half before ('\\' :: 'u' :: (digits ++ rest)) = scanText half' before' rest := by
  obtain ⟨a, b, c, d, rfl⟩ : ∃ a b c d, digits = [a, b, c, d] := by
    match digits, four with
    | [a, b, c, d], _ => exact ⟨a, b, c, d, rfl⟩
  rw [List.cons_append, List.cons_append, List.cons_append, List.cons_append, List.nil_append,
    scanText, number, Option.bind_some, joined]

/-- A character outside the surrogates is given by one unit. -/
theorem joinUnit_char {c : Char} {before : List Char} (small : c.toNat < 0x10000) :
    joinUnit none before c.toNat = some (none, c :: before) := by
  have scalar := Utf8.toNat_scalar c
  have noFirst : ¬ (0xD800 ≤ c.toNat ∧ c.toNat ≤ 0xDBFF) := by omega
  have noSecond : ¬ (0xDC00 ≤ c.toNat ∧ c.toNat ≤ 0xDFFF) := by omega
  simp [joinUnit, noFirst, noSecond]

theorem joinUnit_first {unit : Nat} {before : List Char} (least : 0xD800 ≤ unit)
    (most : unit ≤ 0xDBFF) : joinUnit none before unit = some (some unit, before) := by
  simp [joinUnit, least, most]

theorem joinUnit_second {c : Char} {before : List Char} (beyond : 0x10000 ≤ c.toNat) :
    joinUnit (some (0xD800 + (c.toNat - 0x10000) / 0x400)) before
      (0xDC00 + (c.toNat - 0x10000) % 0x400) = some (none, c :: before) := by
  have most : 0xDC00 + (c.toNat - 0x10000) % 0x400 ≤ 0xDFFF := by omega
  have whole : 0x10000 + (0xD800 + (c.toNat - 0x10000) / 0x400 - 0xD800) * 0x400 +
      (0xDC00 + (c.toNat - 0x10000) % 0x400 - 0xDC00) = c.toNat := by omega
  unfold joinUnit
  simp only [whole, Char.ofNat_toNat]
  simp [most]

/-- A letter behind a backslash is read as what it means, unless it is the one for numbers. -/
theorem scanText_letter {l c : Char} {before rest : List Char} (means : unescape l = some c) :
    scanText none before ('\\' :: l :: rest) = scanText none (c :: before) rest := by
  have other : l ≠ 'u' := by
    rintro rfl
    cases means
  exact scanText.eq_3 before l rest c (fun _ _ _ _ _ same _ => other same) means

theorem scanText_plain {c : Char} {before rest : List Char} (visible : 0x20 ≤ c.toNat)
    (noQuote : c ≠ '"') (noBackslash : c ≠ '\\') :
    scanText none before (c :: rest) = scanText none (c :: before) rest := by
  rw [scanText.eq_5 none before c rest (fun _ _ _ _ _ same _ => noBackslash same)
    (fun _ _ same _ => noBackslash same)]
  simp [noQuote, noBackslash, Nat.not_lt.2 visible]

/-- A string is read up to the quotation mark that closes it. -/
theorem Spells.scanText {body text : List Char} (spells : Spells body text)
    (before rest : List Char) :
    Json.scanText none before (body ++ '"' :: rest) = some (before.reverse ++ text, rest) := by
  induction spells generalizing before with
  | nil => simp [Json.scanText]
  | plain visible noQuote noBackslash _ ih =>
    rw [List.cons_append, scanText_plain visible noQuote noBackslash, ih]
    simp
  | letter means _ ih =>
    rw [List.cons_append, List.cons_append, scanText_letter means, ih]
    simp
  | unit small four number _ ih =>
    rw [List.cons_append, List.cons_append, List.append_assoc,
      scanText_unit four number (joinUnit_char small), ih]
    simp
  | @pair c first second body text beyond fourFirst fourSecond numberFirst numberSecond _ ih =>
    have scalar := Utf8.toNat_scalar c
    -- The first unit only opens a pair; `before` grows with the second.
    have head : '\\' :: 'u' :: (first ++ '\\' :: 'u' :: (second ++ body)) ++ '"' :: rest =
        '\\' :: 'u' :: (first ++ '\\' :: 'u' :: (second ++ (body ++ '"' :: rest))) := by simp
    rw [head, scanText_unit fourFirst numberFirst (joinUnit_first (by omega) (by omega)),
      scanText_unit fourSecond numberSecond (joinUnit_second beyond), ih]
    simp

/-! ## What is read as a string -/

/-- Two units that make up a surrogate pair give a character beyond them. -/
def pairValue (first second : Nat) : Nat := 0x10000 + (first - 0xD800) * 0x400 + (second - 0xDC00)

/-- Where a unit is put behind a text, it opens a pair, is a character, or completes a pair. -/
theorem joinUnit_cases {half half' : Option Nat} {before before' : List Char} {unit : Nat}
    (joined : joinUnit half before unit = some (half', before')) :
    (half = none ∧ half' = some unit ∧ before' = before ∧ 0xD800 ≤ unit ∧ unit ≤ 0xDBFF) ∨
    (half = none ∧ half' = none ∧ before' = Char.ofNat unit :: before ∧
      (unit < 0xD800 ∨ 0xDFFF < unit)) ∨
    ∃ first, half = some first ∧ half' = none ∧ 0xDC00 ≤ unit ∧ unit ≤ 0xDFFF ∧
      before' = Char.ofNat (pairValue first unit) :: before := by
  unfold joinUnit at joined
  cases half with
  | none =>
    simp only [Bool.and_eq_true, decide_eq_true_eq] at joined
    split at joined
    · cases joined
      exact .inl (by simp; omega)
    · split at joined
      · cases joined
      · cases joined
        exact .inr (.inl (by simp; omega))
  | some first =>
    simp only [Bool.and_eq_true, decide_eq_true_eq] at joined
    split at joined
    · cases joined
      exact .inr (.inr ⟨first, rfl, rfl, by omega, by omega, rfl⟩)
    · cases joined

theorem Spells.of_unit {unit : Nat} {digits body text : List Char} (four : digits.length = 4)
    (number : Text.readHex digits = some unit) (outside : unit < 0xD800 ∨ 0xDFFF < unit)
    (rest : Spells body text) :
    Spells ('\\' :: 'u' :: (digits ++ body)) (Char.ofNat unit :: text) := by
  have small : unit < 0x10000 := readHex_lt four number
  have value : (Char.ofNat unit).toNat = unit := Utf8.toNat_ofNat_of_scalar (by omega)
  refine .unit ?_ four ?_ rest
  · rw [value]
    exact small
  · rw [value, number]

theorem Spells.of_pair {unit second : Nat} {digits more body text : List Char}
    (four : digits.length = 4) (number : Text.readHex digits = some unit) (low : 0xD800 ≤ unit)
    (high : unit ≤ 0xDBFF) (fourMore : more.length = 4)
    (numberMore : Text.readHex more = some second) (lowSecond : 0xDC00 ≤ second)
    (highSecond : second ≤ 0xDFFF) (rest : Spells body text) :
    Spells ('\\' :: 'u' :: (digits ++ '\\' :: 'u' :: (more ++ body)))
      (Char.ofNat (pairValue unit second) :: text) := by
  have beyond : 0x10000 ≤ pairValue unit second ∧ pairValue unit second < 0x110000 := by
    unfold pairValue
    omega
  have value : (Char.ofNat (pairValue unit second)).toNat = pairValue unit second :=
    Utf8.toNat_ofNat_of_scalar (.inr ⟨by omega, beyond.2⟩)
  refine .pair ?_ four fourMore ?_ ?_ rest
  · omega
  · rw [value, number]
    unfold pairValue
    exact congrArg some (by omega)
  · rw [value, numberMore]
    unfold pairValue
    exact congrArg some (by omega)

/-- What follows within a string of which a part has been read: the spelling of `s` up to the mark
that closes the string. Where the first half of a pair has been read the second comes first. -/
def Remains : Option Nat → List Char → List Char → List Char → Prop
  | none, text, s, rest => ∃ body, Spells body s ∧ text = body ++ '"' :: rest
  | some first, text, s, rest => 0xD800 ≤ first → first ≤ 0xDBFF →
    ∃ digits second body behind, digits.length = 4 ∧ Text.readHex digits = some second ∧
      0xDC00 ≤ second ∧ second ≤ 0xDFFF ∧ Spells body behind ∧
      s = Char.ofNat (pairValue first second) :: behind ∧
      text = '\\' :: 'u' :: (digits ++ (body ++ '"' :: rest))

theorem remains_of_scanText {half : Option Nat} {before text s rest : List Char}
    (scanned : scanText half before text = some (s, rest)) :
    ∃ t, s = before.reverse ++ t ∧ Remains half text t rest := by
  fun_induction scanText half before text with
  | case1 => cases scanned
  | case2 half before a b c d behind half' before' joined ih =>
    obtain ⟨unit, number, joined⟩ := Option.bind_eq_some_iff.1 joined
    obtain ⟨t, same, remains⟩ := ih scanned
    subst same
    have four : [a, b, c, d].length = 4 := rfl
    rcases joinUnit_cases joined with ⟨rfl, rfl, rfl, low, high⟩ | ⟨rfl, rfl, rfl, outside⟩ |
      ⟨first, rfl, rfl, low, high, rfl⟩
    · obtain ⟨digits, second, body, t, fourMore, numberMore, lowSecond, highSecond, spells, rfl,
        rfl⟩ := remains low high
      exact ⟨_, rfl, _,
        spells.of_pair four number low high fourMore numberMore lowSecond highSecond,
        by simp⟩
    · obtain ⟨body, spells, rfl⟩ := remains
      exact ⟨Char.ofNat unit :: t, by simp, _, spells.of_unit four number outside, by simp⟩
    · obtain ⟨body, spells, rfl⟩ := remains
      exact ⟨_ :: t, by simp, fun _ _ =>
        ⟨[a, b, c, d], unit, body, t, four, number, low, high, spells, rfl, rfl⟩⟩
  | case3 => cases scanned
  | case4 before letter behind _ c means ih =>
    obtain ⟨t, same, body, spells, rfl⟩ := ih scanned
    exact ⟨c :: t, by simp [same], _, .letter means spells, rfl⟩
  | case5 => cases scanned
  | case6 => cases scanned
  | case7 half before c behind _ _ fresh closes =>
    cases scanned
    obtain rfl : half = none := by simpa using fresh
    exact ⟨[], by simp, [], .nil, by rw [eq_of_beq closes]; rfl⟩
  | case8 => cases scanned
  | case9 half before c behind _ _ fresh noQuote visible ih =>
    obtain rfl : half = none := by simpa using fresh
    simp only [Bool.or_eq_true, decide_eq_true_eq, beq_iff_eq, not_or, Nat.not_lt] at visible
    obtain ⟨t, same, body, spells, rfl⟩ := ih scanned
    exact ⟨c :: t, by simp [same], _,
      .plain visible.1 (by simpa using noQuote) visible.2 spells, rfl⟩

/-- A string ends at the mark that closes it, and what stands before the mark spells it. -/
theorem scanText_iff {text s rest : List Char} :
    scanText none [] text = some (s, rest) ↔
      ∃ body, Spells body s ∧ text = body ++ '"' :: rest := by
  constructor
  · intro scanned
    obtain ⟨t, rfl, remains⟩ := remains_of_scanText scanned
    exact remains
  · rintro ⟨body, spells, rfl⟩
    exact spells.scanText [] rest

/-! ## Strings within a line -/

/-- No control character stands in a string: it does not end its line. -/
theorem Spells.visible {body text : List Char} (spells : Spells body text) :
    ∀ c ∈ body, 0x20 ≤ c.toNat := by
  have letter {l c : Char} (means : unescape l = some c) : 0x20 ≤ l.toNat := by
    unfold unescape at means
    split at means <;> first | decide | cases means
  induction spells with
  | nil => simp
  | plain visible noQuote noBackslash _ ih => simpa [visible] using ih
  | letter means _ ih =>
    simp only [List.forall_mem_cons]
    exact ⟨by decide, letter means, ih⟩
  | unit small four number _ ih =>
    simp only [List.forall_mem_cons, List.forall_mem_append]
    exact ⟨by decide, by decide, readHex_visible number, ih⟩
  | pair beyond fourFirst fourSecond numberFirst numberSecond _ ih =>
    simp only [List.forall_mem_cons, List.forall_mem_append]
    exact ⟨by decide, by decide, readHex_visible numberFirst, by decide, by decide,
      readHex_visible numberSecond, ih⟩

theorem Spells.not_mem_quote {c : Char} {body text : List Char} (spells : Spells body text)
    (control : c.toNat < 0x20) : c ∉ quote body := by
  have quotation : c ≠ '"' := by
    intro same
    rw [same] at control
    exact absurd control (by decide)
  have inside : c ∉ body := fun member => absurd control (Nat.not_lt.2 (spells.visible c member))
  simp [quote, quotation, inside]

/-! ## Two printers -/

theorem Spells.flatMap {write : Char → List Char}
    (each : ∀ c {body text}, Spells body text → Spells (write c ++ body) (c :: text))
    (text : List Char) : Spells (text.flatMap write) text := by
  induction text with
  | nil => exact .nil
  | cons c text ih => exact each c ih

theorem Spells.hexUnit {c : Char} {body text : List Char} (small : c.toNat < 0x10000)
    (rest : Spells body text) : Spells ('\\' :: 'u' :: (hexUnit c.toNat ++ body)) (c :: text) :=
  .unit small rfl (readHex_hexUnit small) rest

/-- The printer of this library writes one character. -/
theorem Spells.escape (c : Char) {body text : List Char} (rest : Spells body text) :
    Spells (escape c ++ body) (c :: text) := by
  have letter {l d : Char} (means : unescape l = some d) (same : (c == d) = true) :
      Spells ('\\' :: l :: body) (c :: text) := by
    rw [eq_of_beq same]
    exact .letter means rest
  unfold Json.escape
  split_ifs with quotation backslash backspace formFeed lineFeed carriage tab control
  · exact letter rfl quotation
  · exact letter rfl backslash
  · exact letter rfl backspace
  · exact letter rfl formFeed
  · exact letter rfl lineFeed
  · exact letter rfl carriage
  · exact letter rfl tab
  · have unit := rest.hexUnit (c := c) (by omega)
    have zeros : c.toNat / 0x1000 = 0 ∧ c.toNat / 0x100 % 16 = 0 ∧
        c.toNat / 16 % 16 = c.toNat / 16 := by omega
    rw [Json.hexUnit, zeros.1, zeros.2.1, zeros.2.2] at unit
    exact unit
  · exact .plain (Nat.not_lt.1 control) (by simpa using quotation) (by simpa using backslash) rest

/-- The printer of this library writes a JSON string for its text. -/
theorem spells_escape (text : List Char) : Spells (text.flatMap escape) text :=
  .flatMap (fun c => .escape c) text

/-- A character as a printer writes it that keeps to printable ASCII. -/
def asciiEscape (c : Char) : List Char :=
  if c.toNat < 0x7F then escape c
  else if c.toNat < 0x10000 then '\\' :: 'u' :: hexUnit c.toNat
  else
    '\\' :: 'u' :: (hexUnit (0xD800 + (c.toNat - 0x10000) / 0x400) ++
      '\\' :: 'u' :: hexUnit (0xDC00 + (c.toNat - 0x10000) % 0x400))

theorem Spells.asciiEscape (c : Char) {body text : List Char} (rest : Spells body text) :
    Spells (asciiEscape c ++ body) (c :: text) := by
  unfold Json.asciiEscape
  split
  · exact rest.escape c
  split
  · rename_i small
    exact rest.hexUnit small
  · rename_i beyond
    have scalar := Utf8.toNat_scalar c
    have pair := Spells.pair (Nat.not_lt.1 beyond) rfl rfl (readHex_hexUnit (by omega))
      (readHex_hexUnit (by omega)) rest
    simpa using pair

/-- So does the printer that keeps to ASCII. -/
theorem spells_asciiEscape (text : List Char) : Spells (text.flatMap asciiEscape) text :=
  .flatMap (fun c => .asciiEscape c) text

end Tutor.Json
