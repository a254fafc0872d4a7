import Tutor.Json.Printer
import Tutor.Json.Reader
import Tutor.Text.Digit

/-!
The messages of the protocol, and their form as JSON objects.

A message has a sequence number, a type, and one of three contents. Reading takes the content from
the fields that are there, never from the type: a message with all fields of a response is one;
failing that, a command makes a request, and failing that, an event's name makes an event. Fields
of no meaning are passed over, and `null` counts as absent where a field may be absent.
-/

namespace Tutor

open Json

/-- What a message says. -/
inductive MessageContent
  | response (requestSeq : Nat) (success : Bool) (command : String) (message : Option String)
      (body : Option Value)
  | request (command : String) (arguments : Option Value)
  | event (name : String) (body : Option Value)

/-- A message. -/
structure Message where
  seq : Nat
  type : String
  content : MessageContent

/-! ## Writing -/

namespace MessageContent

/-- An optional value as JSON. -/
def valueOrNull : Option Value → Value
  | some v => v
  | none => .null

/-- The fields of a content, in the order in which they are written. -/
def fields : MessageContent → List Field
  | response requestSeq success command message body => [
      ("request_seq", .number (.whole requestSeq)), ("success", .bool success),
      ("command", .string command), ("message", valueOrNull (message.map .string)),
      ("body", valueOrNull body)]
  | request command arguments => [
      ("command", .string command), ("arguments", valueOrNull arguments)]
  | event name body => [("event", .string name), ("body", valueOrNull body)]

end MessageContent

/-- The fields of a message, in the order in which they are written. -/
def Message.fields (m : Message) : List Field :=
  ("seq", .number (.whole m.seq)) :: ("type", .string m.type) :: m.content.fields

/-- A message as JSON text. -/
def Message.json (m : Message) : List Char := renderFields m.fields

/-! ## Reading -/

/-- The value of a field that may be absent; none if it comes more than once. -/
def atMostOnce (name : String) (fields : List Field) : Option (Option Value) :=
  match fields.filter (·.1 == name) with
  | [] => some none
  | [field] => some (some field.2)
  | _ => none

/-- The value of a field that comes exactly once. -/
def exactlyOnce (name : String) (fields : List Field) : Option Value :=
  (atMostOnce name fields).bind id

/-- A string. -/
def asString? : Value → Option String
  | .string s => some s
  | _ => none

/-- A truth value. -/
def asBool? : Value → Option Bool
  | .bool b => some b
  | _ => none

/-- A natural number that fits a 64-bit word. -/
def asNatural? : Value → Option Nat
  | .number (.whole (.ofNat n)) => if n < Text.wordBound then some n else none
  | _ => none

/-- The value of a field that may be absent or `null`. -/
def present? (v : Option Value) : Option Value :=
  match v with
  | some .null => none
  | v => v

/-- A string that may be absent or `null`; none if it is anything else. -/
def asOptionalString? (v : Option Value) : Option (Option String) :=
  match present? v with
  | none => some none
  | some v => (asString? v).map some

namespace MessageContent

/-- Reads a response. -/
def response? (fields : List Field) : Option MessageContent := do
  let requestSeq ← asNatural? (← exactlyOnce "request_seq" fields)
  let success ← asBool? (← exactlyOnce "success" fields)
  let command ← asString? (← exactlyOnce "command" fields)
  let message ← asOptionalString? (← atMostOnce "message" fields)
  let body ← atMostOnce "body" fields
  return response requestSeq success command message (present? body)

/-- Reads a request. -/
def request? (fields : List Field) : Option MessageContent := do
  let command ← asString? (← exactlyOnce "command" fields)
  let arguments ← atMostOnce "arguments" fields
  return request command (present? arguments)

/-- Reads an event. -/
def event? (fields : List Field) : Option MessageContent := do
  let name ← asString? (← exactlyOnce "event" fields)
  let body ← atMostOnce "body" fields
  return event name (present? body)

/-- Reads the first of the three contents that the fields admit. -/
def ofFields? (fields : List Field) : Option MessageContent :=
  (response? fields).or ((request? fields).or (event? fields))

end MessageContent

/-- Reads a message from the fields of its object. The number and the type come exactly once. -/
def Message.ofFields? (fields : List Field) : Option Message := do
  let seq ← asNatural? (← exactlyOnce "seq" fields)
  let type ← asString? (← exactlyOnce "type" fields)
  let content ← MessageContent.ofFields? fields
  return ⟨seq, type, content⟩

/-- Reads a message from a JSON text. -/
def Message.ofJson? (text : List Char) : Option Message :=
  match Document.read? text with
  | some (.object fields) => ofFields? fields
  | _ => none

end Tutor
