import Tutor.Json.Numeral
import Tutor.Protocol.Message
import Tutor.Text.Quoted

/-!
The arguments of requests, and what is said of arguments that do not fit.

Arguments are an object with named fields or an array with the same values in order. Fields of an
object are looked at in rising order of their names, so of two faults the one in the lesser name is
reported; that a field is missing is reported only when all that are there fit.
-/

namespace Tutor

open Json

/-- Why arguments were refused. -/
inductive ArgumentError
  /-- A field that must be there is not. -/
  | missingField (name : String)
  /-- Something else was expected in the place of a value. -/
  | wrongType (found : Value) (expected : String)
  /-- An array ends before its first value. -/
  | tooShort (expected : String)
  /-- An array of this length has more values than there are arguments. -/
  | tooLong (length : Nat)

/-- The kind of a value, with the value itself where it is a single word. -/
def describe : Value → String
  | .null => "null"
  | .bool b => "boolean `" ++ (if b then "true" else "false") ++ "`"
  | .number (.whole n) => "integer `" ++ String.ofList (Number.whole n).render ++ "`"
  | .number (.real x) => "floating point `" ++ String.ofList (Number.real x).render ++ "`"
  | .string s => "string " ++ String.ofList (Text.quote s.toList)
  | .array _ => "sequence"
  | .object _ => "map"

/-- The text of the error. -/
def ArgumentError.message : ArgumentError → String
  | missingField name => "missing field `" ++ name ++ "`"
  | wrongType found expected => "invalid type: " ++ describe found ++ ", expected " ++ expected
  | tooShort expected => "invalid length 0, expected " ++ expected
  | tooLong length =>
    "invalid length " ++ String.ofList (Nat.toDigits 10 length) ++
      ", expected fewer elements in array"

/-- The value of a field. -/
def valueOf? (name : String) (fields : List Field) : Option Value :=
  (fields.find? (·.1 == name)).map (·.2)

/-- A string. -/
def expectString : Value → Except ArgumentError String
  | .string s => .ok s
  | other => .error (.wrongType other "a string")

/-- A list of strings; the first member that is none is reported. -/
def expectStrings : Value → Except ArgumentError (List String)
  | .array items => items.mapM expectString
  | other => .error (.wrongType other "a sequence")

/-- Refuses an array with more values than there are arguments. -/
def expectAtMost (count : Nat) (items : List Value) : Except ArgumentError Unit :=
  if count < items.length then .error (.tooLong items.length) else .ok ()

/-- Reads arguments that are one string: a field of this name, or an array with one member. `title`
names the arguments in messages. -/
def readTextArgument (title name : String) : Value → Except ArgumentError String
  | .object fields =>
    match valueOf? name fields with
    | some v => expectString v
    | none => .error (.missingField name)
  | .array [] => .error (.tooShort (title ++ " with 1 element"))
  | .array (v :: rest) => do
    let text ← expectString v
    expectAtMost 1 (v :: rest)
    return text
  | other => .error (.wrongType other title)

/-- The arguments of a run. -/
structure RunArguments where
  source : String
  /-- Answers to what the program will ask. -/
  stdin : List String
  deriving DecidableEq, Repr

/-- Reads the arguments of a run; the answers may be left out. -/
def RunArguments.read (title : String) : Value → Except ArgumentError RunArguments
  | .object fields => do
    let source ← (valueOf? "source" fields).mapM expectString
    let stdin ← (valueOf? "stdin" fields).mapM expectStrings
    match source with
    | some source => return ⟨source, stdin.getD []⟩
    | none => .error (.missingField "source")
  | .array [] => .error (.tooShort (title ++ " with 2 elements"))
  | .array (v :: rest) => do
    let source ← expectString v
    let stdin ← match rest with
      | [] => pure []
      | w :: _ => expectStrings w
    expectAtMost 2 (v :: rest)
    return ⟨source, stdin⟩
  | other => .error (.wrongType other title)

end Tutor
