import Tutor.Json.Printer
import Tutor.Proofs.Json.Words

/-!
The words of a text that was written.

Numbers and named values run on as far as they can, so they must stand in front of something that
stops them; punctuation and strings may stand in front of anything. Between two values there is
always one of the latter, so the text of a value consists of its words (`Written.words`).
-/

namespace Tutor.Json

/-! ## One word -/

/-- What stops a number or a named value. -/
def Stops (rest : List Char) : Prop :=
  ∀ c ∈ rest.head?, isNumeralChar c = false ∧ c.isAlpha = false

theorem Stops.endsBefore {rest : List Char} (stops : Stops rest) (token : Token) :
    token.EndsBefore rest := by
  cases token with
  | number n => exact fun c first => (stops c first).1
  | null => exact fun c first => (stops c first).2
  | bool b => exact fun c first => (stops c first).2
  | _ => trivial

namespace Token

/-- Whether a word runs on as far as it can. -/
def isBare : Token → Bool
  | .null | .bool _ | .number _ => true
  | _ => false

/-- Numbers are whole numbers of a 64-bit word. -/
def Canonical : Token → Prop
  | .number n => n.IsWord
  | _ => True

theorem endsBefore_of_not_bare {token : Token} (separates : token.isBare = false)
    (rest : List Char) : token.EndsBefore rest := by
  cases token with
  | null => cases separates
  | bool b => cases separates
  | number n => cases separates
  | _ => trivial

/-- What is written for a word is its text. -/
theorem Canonical.word {token : Token} (canonical : token.Canonical) : Word token.render token := by
  cases token with
  | leftBrace => exact .mark rfl
  | rightBrace => exact .mark rfl
  | leftBracket => exact .mark rfl
  | rightBracket => exact .mark rfl
  | comma => exact .mark rfl
  | colon => exact .mark rfl
  | null => exact .named rfl
  | bool b =>
    cases b with
    | true => exact .named rfl
    | false => exact .named rfl
  | number n =>
    cases n with
    | whole n => exact .number (.intDigits canonical)
    | real x => exact canonical.elim
  | string s => exact .string (spells_escape s)

end Token

/-! ## Several words -/

/-- In front of what stops a number, the text of these words consists of them. -/
def Written (tokens : List Token) : Prop :=
  ∀ rest more, Stops rest → Words rest more →
    Words (tokens.flatMap Token.render ++ rest) (tokens ++ more)

namespace Written

theorem nil : Written [] := fun _ _ _ words => words

theorem single {token : Token} (canonical : token.Canonical) : Written [token] := by
  intro rest more stops words
  rw [List.flatMap_singleton]
  exact .word canonical.word (stops.endsBefore token) words

theorem stops_of_not_bare {token : Token} (separates : token.isBare = false) (rest : List Char) :
    Stops (token.render ++ rest) := by
  cases token with
  | null => cases separates
  | bool b => cases separates
  | number n => cases separates
  | _ =>
    intro c isHead
    cases isHead
    decide

/-- Punctuation and strings separate what is before them from what is behind. -/
theorem glue {tokens behind : List Token} {separator : Token} (first : Written tokens)
    (separates : separator.isBare = false) (second : Written behind) :
    Written (tokens ++ separator :: behind) := by
  intro rest more stops words
  have canonical : separator.Canonical := by
    cases separator with
    | number n => cases separates
    | _ => trivial
  have later : Words (separator.render ++ (behind.flatMap Token.render ++ rest))
      (separator :: (behind ++ more)) :=
    .word canonical.word (Token.endsBefore_of_not_bare separates _) (second rest more stops words)
  have all := first _ _ (stops_of_not_bare separates _) later
  simpa using all

/-- The text of words that were written consists of these words. -/
theorem words {tokens : List Token} (written : Written tokens) :
    Words (tokens.flatMap Token.render) tokens := by
  have all := written [] [] nofun .nil
  rwa [List.append_nil, List.append_nil] at all

end Written

end Tutor.Json
