/-!
JSON values as the program holds them.

An object is a list of fields in rising order of their names, each name once. `Value.ofFields`
brings the fields of a text into this form; of fields with one name the last counts.
-/

namespace Tutor.Json

/-- A number: whole where a 64-bit word can hold it, else a double. -/
inductive Number
  | whole (n : Int)
  | real (x : Float)

/-- A JSON value. -/
inductive Value
  | null
  | bool (b : Bool)
  | number (n : Number)
  | string (s : String)
  | array (items : List Value)
  | object (fields : List (String × Value))

/-- A named value of an object. -/
abbrev Field := String × Value

/-- Puts a field in its place among fields in rising order, instead of one with its name. -/
def insertField (field : Field) : List Field → List Field
  | [] => [field]
  | other :: rest =>
    if field.1 = other.1 then field :: rest
    else if field.1 < other.1 then field :: other :: rest
    else other :: insertField field rest

/-- The fields in rising order of their names, the last of each name. -/
def sortFields (fields : List Field) : List Field :=
  fields.foldl (fun sorted field => insertField field sorted) []

/-- The object with these fields, given in any order. -/
def Value.ofFields (fields : List Field) : Value := .object (sortFields fields)

end Tutor.Json
