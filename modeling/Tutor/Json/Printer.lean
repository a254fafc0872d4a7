import Tutor.Json.Token

/-!
JSON values as text, without any gap between the words.
-/

namespace Tutor.Json

mutual

/-- The words of a value. -/
def Value.tokens : Value → List Token
  | .null => [.null]
  | .bool b => [.bool b]
  | .number n => [.number n]
  | .string s => [.string s.toList]
  | .array items => .leftBracket :: itemTokens items ++ [.rightBracket]
  | .object fields => .leftBrace :: fieldTokens fields ++ [.rightBrace]

/-- The words of the items of an array, with commas between the items. -/
def itemTokens : List Value → List Token
  | [] => []
  | [item] => item.tokens
  | item :: rest => item.tokens ++ .comma :: itemTokens rest

/-- The words of the fields of an object, with commas between the fields. -/
def fieldTokens : List (String × Value) → List Token
  | [] => []
  | [(name, value)] => .string name.toList :: .colon :: value.tokens
  | (name, value) :: rest =>
    .string name.toList :: .colon :: value.tokens ++ .comma :: fieldTokens rest

end

/-- The text of a value. -/
def Value.render (v : Value) : List Char := v.tokens.flatMap Token.render

/-- The text of an object with these fields, in the order given. -/
def renderFields (fields : List Field) : List Char := (Value.object fields).render

end Tutor.Json
