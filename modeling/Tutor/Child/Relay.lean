import Tutor.Child.Input
import Tutor.Json.Reader
import Tutor.Run.Dialogue
import Tutor.Text.Blank
import Tutor.Text.Find

/-!
Relaying a child's output, line by line, while answering what it asks.

A line may hold a marker: behind it stands, as a JSON string, the prompt of a request for input or
the report of an error. What stands before a marker, and every line without one, is output of the
submitted program. The answers go to the child's input, and the relay goes on whether they arrive
there or not.
-/

namespace Tutor

/-! ## Lines -/

/-- Marks a request for input. -/
def requestMarker : String := "\x00PYEXPLAIN_INPUT\x00"

/-- Marks the report of an error. -/
def reportMarker : String := "\x00PYEXPLAIN_ERROR\x00"

/-- What a line of output means. -/
inductive ChildLine
  /-- Output of the program. -/
  | output (chunk : String)
  /-- A request for input behind some output. -/
  | request (before : String) (prompt : Option String)
  /-- The report of an error behind some output. -/
  | report (before : String) (text : String)
  deriving DecidableEq, Repr

namespace ChildLine

/-- The prompt that a request carries: a string that is not empty. -/
def promptOf (payload : List Char) : Option String :=
  match Json.readString? payload with
  | some prompt => if prompt = "" then none else some prompt
  | none => none

/-- The report that a payload carries: a string, or else the payload itself. -/
def reportOf (payload : List Char) : String :=
  (Json.readString? payload).getD (String.ofList payload)

/-- The meaning of a line of text. A report counts before a request. -/
def ofText (line : List Char) : ChildLine :=
  match Text.splitAround reportMarker.toList [] line with
  | some (before, payload) => report (String.ofList before) (reportOf (Text.trimEnd payload))
  | none =>
    match Text.splitAround requestMarker.toList [] line with
    | some (before, payload) => request (String.ofList before) (promptOf (Text.trimEnd payload))
    | none => output (String.ofList line)

/-- The meaning of a line of bytes; bytes that are no text are replaced. -/
def ofLine (line : List UInt8) : ChildLine := ofText (Utf8.readLossy line)

end ChildLine

/-! ## The conversation -/

/-- What a relay has to remember. -/
structure Relay where
  /-- The bytes of a line that has not ended. -/
  line : List UInt8
  /-- Where the answers go. -/
  input : ChildInput
  /-- The last report of an error. -/
  report : Option String

namespace Relay

/-- Before the child has written anything. -/
def new (input : ChildInput) : Relay := ⟨[], input, none⟩

/-- Writes output before a marker, where there is any. -/
def sayBefore {α : Type} (before : String) (next : Dialogue α) : Dialogue α :=
  if before = "" then next else .say before next

/-- Passes on what a line means. -/
def pass {α : Type} (relay : Relay) (next : Relay → Dialogue α) :
    ChildLine → Dialogue α
  | .output chunk => .say chunk (next relay)
  | .request before prompt =>
    sayBefore before
      (.ask prompt fun answer => next { relay with input := relay.input.answer answer })
  | .report before text => sayBefore before (next { relay with report := some text })

/-- Passes on lines one after another. -/
def passAll {α : Type} (next : Relay → Dialogue α) : List (List UInt8) → Relay → Dialogue α
  | [], relay => next relay
  | line :: lines, relay => relay.pass (passAll next lines) (.ofLine line)

/-- Passes on the lines that some bytes complete, and keeps what stands behind them. -/
def hear {α : Type} (relay : Relay) (bytes : List UInt8) (next : Relay → Dialogue α) :
    Dialogue α :=
  let (lines, rest) := Text.wholeLines (relay.line ++ bytes)
  passAll (fun relay => next { relay with line := rest }) lines relay

/-- Passes on a last line that no line feed has ended. -/
def finish {α : Type} (relay : Relay) (next : Relay → Dialogue α) : Dialogue α :=
  if relay.line = [] then next relay
  else relay.pass (fun relay => next { relay with line := [] }) (.ofLine relay.line)

end Relay

/-- How a conversation with a child ended. -/
structure Farewell where
  relay : Relay
  status : ExitStatus
  errors : List UInt8

/-- Talks with a child until it ends. -/
def Child.converse : Child → Relay → Dialogue Farewell
  | exits status errors, relay => relay.finish fun relay => .done ⟨relay, status, errors⟩
  | writes bytes next, relay => relay.hear bytes fun relay => next.converse relay
  | reads next, relay =>
    let (line, input) := relay.input.deliver
    (next line).converse { relay with input }
  | closes next, relay => next.converse { relay with input := relay.input.close }

end Tutor
