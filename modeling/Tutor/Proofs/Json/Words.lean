import Tutor.Proofs.Json.Literal
import Tutor.Proofs.Json.Numeral

/-!
The words of a JSON text.

`Word` says what the text of a word is, and `Words` how a text consists of words with gaps between
them: marks and strings may stand anywhere, while numbers and named values go on as far as they can.
A text is taken apart into just these words (`Token.scan?_iff`).
-/

namespace Tutor.Json

/-- A text is that of one word. -/
inductive Word : List Char → Token → Prop
  | mark {c : Char} {token : Token} : punctuation c = some token → Word [c] token
  | named {letters : List Char} {token : Token} : namedValue letters = some token →
    Word letters token
  | number {text : List Char} {n : Number} : NumberText text n → Word text (.number n)
  | string {body s : List Char} : Spells body s → Word (quote body) (.string s)

/-- What may stand behind a word: nothing that a number or a named value would go on with. -/
def Token.EndsBefore (rest : List Char) : Token → Prop
  | .number _ => ∀ c ∈ rest.head?, isNumeralChar c = false
  | .null | .bool _ => ∀ c ∈ rest.head?, c.isAlpha = false
  | _ => True

/-- A text consists of words and of gaps between them. -/
inductive Words : List Char → List Token → Prop
  | nil : Words [] []
  | gap {c : Char} {text : List Char} {tokens : List Token} : isGap c = true → Words text tokens →
    Words (c :: text) tokens
  | word {front rest : List Char} {token : Token} {tokens : List Token} : Word front token →
    token.EndsBefore rest → Words rest tokens → Words (front ++ rest) (token :: tokens)

/-! ## How words begin -/

theorem isNumeralChar_of_isDigit {c : Char} (digit : c.isDigit = true) :
    isNumeralChar c = true := by
  simp [isNumeralChar, digit]

/-- Only characters of numbers stand in the text of a number, and it begins with a digit or a minus
sign. -/
theorem NumeralText.shape {text : List Char} {numeral : Numeral}
    (isText : NumeralText text numeral) :
    (∀ c ∈ text, isNumeralChar c = true) ∧
      ∃ c front, text = c :: front ∧ (c.isDigit || c == '-') = true := by
  have ofDigits {digits : List Char} (isDigits : IsDigits digits) :
      ∀ c ∈ digits, isNumeralChar c = true := fun c member =>
    isNumeralChar_of_isDigit (isDigits.2 c member)
  cases isText with
  | @mk negative whole fractionText fraction powerText power isDigits leading isFraction isPower =>
  constructor
  · simp only [List.forall_mem_append]
    refine ⟨?_, ofDigits isDigits, ?_, ?_⟩
    · cases negative with
      | true => exact List.forall_mem_singleton.2 rfl
      | false => exact nofun
    · cases isFraction with
      | absent => exact nofun
      | digits isDigits => exact List.forall_mem_cons.2 ⟨rfl, ofDigits isDigits⟩
    · cases isPower with
      | absent => exact nofun
      | digits isLetter signed isDigits =>
        refine List.forall_mem_cons.2 ⟨?_, List.forall_mem_append.2 ⟨?_, ofDigits isDigits⟩⟩
        · rcases isLetter with rfl | rfl <;> rfl
        · cases signed with
          | absent => exact nofun
          | minus => exact List.forall_mem_singleton.2 rfl
          | plus => exact List.forall_mem_singleton.2 rfl
  · cases negative with
    | true => exact ⟨'-', _, rfl, rfl⟩
    | false =>
      obtain ⟨c, others, rfl⟩ := List.exists_cons_of_ne_nil isDigits.1
      exact ⟨c, _, rfl, by rw [isDigits.2 c List.mem_cons_self, Bool.true_or]⟩

theorem NumberText.shape {text : List Char} {n : Number} (isText : NumberText text n) :
    (∀ c ∈ text, isNumeralChar c = true) ∧
      ∃ c front, text = c :: front ∧ (c.isDigit || c == '-') = true := by
  cases isText with
  | whole isText => exact isText.shape
  | real isText => exact isText.shape

/-- A digit or a minus sign begins no other word than a number. -/
theorem mark_of_starts {c : Char} (starts : (c.isDigit || c == '-') = true) :
    isGap c = false ∧ punctuation c = none ∧ (c == '"') = false := by
  have differs {d : Char} (other : (d.isDigit || d == '-') = false) : (c == d) = false := by
    rw [beq_eq_false_iff_ne]
    rintro rfl
    cases starts.symm.trans other
  refine ⟨?_, ?_, differs rfl⟩
  · rw [isGap, differs rfl, differs rfl, differs rfl, differs rfl]
    rfl
  · unfold punctuation
    split <;> first | rfl | cases starts

theorem namedValue_cases {letters : List Char} {token : Token}
    (named : namedValue letters = some token) :
    letters = "null".toList ∧ token = .null ∨ letters = "true".toList ∧ token = .bool true ∨
      letters = "false".toList ∧ token = .bool false := by
  unfold namedValue at named
  split at named
  · cases named
    exact .inl ⟨by assumption, rfl⟩
  split at named
  · cases named
    exact .inr (.inl ⟨by assumption, rfl⟩)
  split at named
  · cases named
    exact .inr (.inr ⟨by assumption, rfl⟩)
  · cases named

theorem punctuation_endsBefore {c : Char} {token : Token} (mark : punctuation c = some token)
    (rest : List Char) : token.EndsBefore rest := by
  unfold punctuation at mark
  split at mark <;> cases mark <;> trivial

/-! ## One word -/

theorem nextToken_named {token : Token} {c : Char} {letters rest : List Char}
    (alpha : letters.all Char.isAlpha = true) (named : namedValue (c :: letters) = some token)
    (start : punctuation c = none ∧ (c == '"') = false ∧ (c.isDigit || c == '-') = false)
    (ends : ∀ c ∈ rest.head?, c.isAlpha = false) :
    nextToken c (letters ++ rest) = some (token, rest) := by
  obtain ⟨taken, left⟩ := Text.takeWhile_dropWhile_iff.2 ⟨rfl, List.all_eq_true.1 alpha, ends⟩
  rw [nextToken, start.1]
  simp only [start.2.1, start.2.2, taken, left, named]
  rfl

/-- A word is taken off in front of what may stand behind it. -/
theorem Word.nextToken {c : Char} {front rest : List Char} {token : Token}
    (word : Word (c :: front) token) (ends : token.EndsBefore rest) :
    nextToken c (front ++ rest) = some (token, rest) := by
  generalize same : c :: front = text at word
  cases word with
  | mark mark =>
    cases same
    rw [Json.nextToken, mark]
    rfl
  | named named =>
    rcases namedValue_cases named with ⟨rfl, rfl⟩ | ⟨rfl, rfl⟩ | ⟨rfl, rfl⟩
    all_goals
      cases same
      exact nextToken_named rfl rfl (by decide) ends
  | number isText =>
    subst same
    obtain ⟨all, _, _, same, starts⟩ := isText.shape
    cases same
    obtain ⟨-, noMark, noQuote⟩ := mark_of_starts starts
    obtain ⟨taken, left⟩ :=
      Text.takeWhile_dropWhile_iff.2 ⟨rfl, (List.forall_mem_cons.1 all).2, ends⟩
    rw [Json.nextToken, noMark]
    simp only [noQuote, starts, taken, left, Number.read?_iff.2 isText]
    rfl
  | @string body s spells =>
    obtain ⟨rfl, rfl⟩ : c = '"' ∧ front = body ++ ['"'] := List.cons_eq_cons.1 same
    have scanned : scanText none [] (body ++ '"' :: rest) = some (s, rest) :=
      scanText_iff.2 ⟨body, spells, rfl⟩
    have shape : body ++ ['"'] ++ rest = body ++ '"' :: rest := by simp
    rw [Json.nextToken, shape]
    simp [punctuation, scanned]

/-- What is taken off the front of a text is a word. -/
theorem word_of_nextToken {c : Char} {text rest : List Char} {token : Token}
    (next : nextToken c text = some (token, rest)) :
    ∃ front, Word (c :: front) token ∧ token.EndsBefore rest ∧ text = front ++ rest := by
  unfold nextToken at next
  split at next
  · rename_i mark
    cases next
    exact ⟨[], .mark mark, punctuation_endsBefore mark _, rfl⟩
  split at next
  · rename_i quotation
    obtain ⟨⟨s, behind⟩, scanned, same⟩ := Option.map_eq_some_iff.1 next
    cases same
    obtain ⟨body, spells, rfl⟩ := scanText_iff.1 scanned
    refine ⟨body ++ ['"'], ?_, trivial, by simp⟩
    rw [eq_of_beq quotation]
    exact .string spells
  split at next
  · obtain ⟨n, read, same⟩ := Option.map_eq_some_iff.1 next
    cases same
    obtain ⟨split, -, ends⟩ := Text.takeWhile_dropWhile_iff.1
      (⟨rfl, rfl⟩ : text.takeWhile isNumeralChar = _ ∧ text.dropWhile isNumeralChar = _)
    exact ⟨_, .number (Number.read?_iff.1 read), ends, split⟩
  · obtain ⟨token, named, same⟩ := Option.map_eq_some_iff.1 next
    cases same
    obtain ⟨split, -, ends⟩ := Text.takeWhile_dropWhile_iff.1
      (⟨rfl, rfl⟩ : text.takeWhile Char.isAlpha = _ ∧ text.dropWhile Char.isAlpha = _)
    refine ⟨_, .named named, ?_, split⟩
    rcases namedValue_cases named with ⟨-, rfl⟩ | ⟨-, rfl⟩ | ⟨-, rfl⟩ <;> exact ends

/-- No word is empty or begins with a gap. -/
theorem Word.exists_cons {text : List Char} {token : Token} (word : Word text token) :
    ∃ c front, text = c :: front ∧ isGap c = false := by
  cases word with
  | @mark c token mark =>
    refine ⟨c, [], rfl, ?_⟩
    unfold punctuation at mark
    split at mark <;> first | rfl | cases mark
  | named named =>
    rcases namedValue_cases named with ⟨rfl, -⟩ | ⟨rfl, -⟩ | ⟨rfl, -⟩ <;> exact ⟨_, _, rfl, rfl⟩
  | number isText =>
    obtain ⟨-, c, front, same, starts⟩ := isText.shape
    exact ⟨c, front, same, (mark_of_starts starts).1⟩
  | string => exact ⟨_, _, rfl, rfl⟩

/-! ## Several words -/

theorem scanFrom_gap {c : Char} (gap : isGap c = true) (before : List Token) (text : List Char) :
    Token.scanFrom before (c :: text) = Token.scanFrom before text := by
  rw [Token.scanFrom, if_pos gap]

theorem scanFrom_word {c : Char} {text rest : List Char} {token : Token} (noGap : isGap c = false)
    (next : nextToken c text = some (token, rest)) (before : List Token) :
    Token.scanFrom before (c :: text) = Token.scanFrom (token :: before) rest := by
  rw [Token.scanFrom, if_neg (by simp [noGap])]
  split
  · rename_i found
    cases next.symm.trans found
    rfl
  · rename_i none
    cases next.symm.trans none

theorem Words.scanFrom {text : List Char} {tokens : List Token} (words : Words text tokens)
    (before : List Token) : Token.scanFrom before text = some (before.reverse ++ tokens) := by
  induction words generalizing before with
  | nil =>
    rw [Token.scanFrom, List.append_nil]
  | gap gap _ ih => rw [scanFrom_gap gap, ih]
  | word word ends _ ih =>
    obtain ⟨c, front, rfl, noGap⟩ := word.exists_cons
    rw [List.cons_append, scanFrom_word noGap (word.nextToken ends), ih]
    simp

theorem words_of_scanFrom {before all : List Token} {text : List Char}
    (scanned : Token.scanFrom before text = some all) :
    ∃ tokens, all = before.reverse ++ tokens ∧ Words text tokens := by
  fun_induction Token.scanFrom before text with
  | case1 before =>
    cases scanned
    exact ⟨[], by simp, .nil⟩
  | case2 before c text gap ih =>
    obtain ⟨tokens, same, words⟩ := ih scanned
    exact ⟨tokens, same, .gap gap words⟩
  | case3 before c text noGap token rest next _ ih =>
    obtain ⟨tokens, same, words⟩ := ih scanned
    obtain ⟨front, word, ends, rfl⟩ := word_of_nextToken next
    exact ⟨token :: tokens, by simp [same], .word word ends words⟩
  | case4 => cases scanned

/-- A text is taken apart into the words of which it consists. -/
theorem Token.scan?_iff {text : List Char} {tokens : List Token} :
    Token.scan? text = some tokens ↔ Words text tokens := by
  constructor
  · intro scanned
    obtain ⟨_, rfl, words⟩ := words_of_scanFrom scanned
    exact words
  · exact fun words => words.scanFrom []

end Tutor.Json
