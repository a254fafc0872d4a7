import Tutor.Json.Token

/-!
Reading JSON, word by word.

The state of a reader says what is open: for each array or object around the place that has been
reached, what it holds already. A word either leads to a new state or has no place there. A text
is read when all its words have led to a complete value.

Arrays and objects may be nested `maxDepth` deep.
-/

namespace Tutor.Json

/-- The most arrays and objects that may be open at once. -/
def maxDepth : Nat := 127

/-- An array or object that waits for a value; what it holds already stands in reverse. -/
inductive Layer
  | items (before : List Value)
  | entries (before : List Field) (name : String)

/-- A whole text: an object keeps the fields of the text, in their order and with repetitions. -/
inductive Document
  | plain (v : Value)
  | object (fields : List Field)

/-- Where a reader stands. -/
inductive Reader
  /-- A value must come. -/
  | value (layers : List Layer)
  /-- An array has been opened: a value must come, or its end. -/
  | firstItem (layers : List Layer)
  /-- An object has been opened: a name must come, or its end. -/
  | firstName (layers : List Layer)
  /-- A comma has been read in an object: a name must come. -/
  | nextName (layers : List Layer) (before : List Field)
  /-- A colon must come. -/
  | colon (layers : List Layer) (before : List Field) (name : String)
  /-- A comma must come, or the end of the array. -/
  | itemEnd (layers : List Layer) (before : List Value)
  /-- A comma must come, or the end of the object. -/
  | fieldEnd (layers : List Layer) (before : List Field)
  /-- Nothing must come. -/
  | done (d : Document)

namespace Reader

/-- Gives a finished value to the array or object that waits for it. -/
def supply (v : Value) : List Layer → Reader
  | [] => .done (.plain v)
  | .items before :: layers => .itemEnd layers (v :: before)
  | .entries before name :: layers => .fieldEnd layers ((name, v) :: before)

/-- Closes an object whose fields stand in reverse. -/
def closeObject (before : List Field) : List Layer → Reader
  | [] => .done (.object before.reverse)
  | layers => supply (.ofFields before.reverse) layers

/-- Reads the first word of a value. -/
def start (layers : List Layer) : Token → Option Reader
  | .null => some (supply .null layers)
  | .bool b => some (supply (.bool b) layers)
  | .number n => some (supply (.number n) layers)
  | .string s => some (supply (.string (String.ofList s)) layers)
  | .leftBracket => if layers.length < maxDepth then some (.firstItem layers) else none
  | .leftBrace => if layers.length < maxDepth then some (.firstName layers) else none
  | _ => none

/-- Reads one word. -/
def step : Reader → Token → Option Reader
  | .value layers, token => start layers token
  | .firstItem layers, .rightBracket => some (supply (.array []) layers)
  | .firstItem layers, token => start (.items [] :: layers) token
  | .firstName layers, .rightBrace => some (closeObject [] layers)
  | .firstName layers, .string s => some (.colon layers [] (String.ofList s))
  | .nextName layers before, .string s => some (.colon layers before (String.ofList s))
  | .colon layers before name, .colon => some (.value (.entries before name :: layers))
  | .itemEnd layers before, .comma => some (.value (.items before :: layers))
  | .itemEnd layers before, .rightBracket => some (supply (.array before.reverse) layers)
  | .fieldEnd layers before, .comma => some (.nextName layers before)
  | .fieldEnd layers before, .rightBrace => some (closeObject before layers)
  | _, _ => none

/-- Reads several words. -/
def run : Reader → List Token → Option Reader
  | reader, [] => some reader
  | reader, token :: tokens =>
    match step reader token with
    | some next => run next tokens
    | none => none

end Reader

/-- The document that a text holds. -/
def Document.read? (text : List Char) : Option Document := do
  let tokens ← Token.scan? text
  match ← (Reader.value []).run tokens with
  | .done d => return d
  | _ => none

/-- The value of a document. -/
def Document.toValue : Document → Value
  | .plain v => v
  | .object fields => .ofFields fields

/-- The value that a text holds. -/
def Value.read? (text : List Char) : Option Value := (Document.read? text).map Document.toValue

/-- The string that a text holds as its value. -/
def readString? (text : List Char) : Option String :=
  match Value.read? text with
  | some (.string s) => some s
  | _ => none

end Tutor.Json
