import Tutor.Child.Basic
import Tutor.Json.Printer
import Tutor.Text.Lines
import Tutor.Text.Utf8

/-!
The input of a child: values go in as lines of JSON, and the child takes the lines out again, one
after another. Once the child has closed its end nothing goes in any more.
-/

namespace Tutor

/-- A value as a line of input for the child. -/
def inputLine (value : String) : List UInt8 :=
  Utf8.encode (Json.renderText value.toList ++ ['\n'])

/-- The way of the values to a child. -/
structure ChildInput where
  /-- All that has gone in. -/
  sent : List UInt8
  /-- The lines that the child has taken. -/
  taken : List (List UInt8)
  /-- What has gone in and was not taken; nothing can be once the child has closed its end. -/
  unread : Option (List UInt8)
  /-- Why answers did not go in, for each that did not. -/
  undelivered : List OsError
  deriving DecidableEq, Repr

namespace ChildInput

/-- Before anything is sent. -/
def new : ChildInput := ⟨[], [], some [], []⟩

/-- Sends a value, which goes in unless the child has closed its end. -/
def send (input : ChildInput) (value : String) : Except OsError ChildInput :=
  match input.unread with
  | some unread =>
    .ok { input with
      sent := input.sent ++ inputLine value
      unread := some (unread ++ inputLine value) }
  | none => .error .brokenPipe

/-- Sends an answer. That it does not go in is noted and nothing more: a program may ask for what it
does not need. -/
def answer (input : ChildInput) (value : String) : ChildInput :=
  match input.send value with
  | .ok input => input
  | .error reason => { input with undelivered := input.undelivered ++ [reason] }

/-- Takes out the first line that is left, if there is one. -/
def deliver (input : ChildInput) : Option (List UInt8) × ChildInput :=
  match input.unread with
  | none => (none, input)
  | some unread =>
    let (line, rest) := Text.takeLine unread
    if line = [] then (none, input)
    else (some line, { input with taken := input.taken ++ [line], unread := some rest })

/-- The child closes its end. -/
def close (input : ChildInput) : ChildInput := { input with unread := none }

end ChildInput

/-- The input of a child that has just been started, which may have closed it at once. -/
def Child.opening : Child → ChildInput
  | closes _ => ChildInput.new.close
  | exits .. | writes .. | reads _ => .new

end Tutor
