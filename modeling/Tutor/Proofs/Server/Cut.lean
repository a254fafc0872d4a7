import Tutor.Proofs.Protocol.Cut
import Tutor.Proofs.Server.Work

/-!
Sessions on a stream that is cut.

A session on the first part of a stream hears just those things that end within it, in the same
order, and so it writes the beginning of what the session on the whole stream writes
(`Session.serve_append`): bytes that are still to come can neither change nor withdraw an answer. It
ends as if the stream were over between two messages, unless it is over within the bytes of one.
-/

namespace Tutor

variable {σ : Type}

/-! ## The session on the first part -/

namespace Session

variable (interpreter : Interpreter σ)

/-- Nothing is written on a stream whose first call finds no message and leaves nothing. -/
theorem serve_silent (server : Server σ) {bytes : List UInt8} (nothing : (readMessage bytes).2 = [])
    (noMessage : ∀ m, (readMessage bytes).1 ≠ .message m) :
    (serve interpreter server none bytes).written = [] := by
  have silent : server.receive interpreter (readMessage bytes).1 =
      ⟨[], server, some none, true⟩ := by
    cases found : (readMessage bytes).1 with
    | message m => exact absurd found (noMessage m)
    | fault => rfl
    | ended => rfl
    | cutShort => rfl
  rcases goesOn_or_stop (readMessage bytes).1 with ⟨goesOn, other⟩ | stop
  · have empty : (serve interpreter server none []).written = [] := by
      rw [serve_of_stop interpreter server (.inr (by rw [readMessage_nil]; rfl)), readMessage_nil]
      rfl
    rw [serve_of_goesOn interpreter server goesOn other, silent, nothing, prepend_nil, empty]
  · rw [serve_of_stop interpreter server stop, silent]

theorem Calls.of_cons {bytes rest : List UInt8} {incoming last : Incoming} {before : List Incoming}
    (calls : Calls bytes (incoming :: before) last rest) :
    (readMessage bytes).1 = incoming ∧ Calls (readMessage bytes).2 before last rest := by
  obtain ⟨first, read⟩ := readMessages_cons calls.read
  exact ⟨first, read, fun other member => calls.goOn other (List.mem_cons_of_mem _ member),
    calls.stop⟩

/-- Of all that the session on the whole stream hears, the session on its first part hears what ends
within it. -/
theorem Calls.cut {bytes more rest : List UInt8} {before : List Incoming} {last : Incoming}
    (calls : Calls (bytes ++ more) before last rest) (server : Server σ) :
    ∃ complete later, before ++ [last] = complete ++ later ∧
      EndsWithin bytes more complete later ∧
      (serve interpreter server none bytes).written =
        (server.outputs interpreter complete).flatten := by
  -- A call that takes some of the new bytes is the last to matter: without them nothing is heard.
  induction before generalizing bytes server with
  | nil =>
    rcases readMessage_append bytes more with same | ⟨nothing, noMessage, beyond⟩
    · obtain ⟨first, -⟩ := readMessages_cons calls.read
      rw [same] at first
      have stop := calls.stop
      rw [← first] at stop
      refine ⟨[(readMessage bytes).1], [], by rw [first]; rfl, .single same, ?_⟩
      rw [serve_of_stop interpreter server stop]
      simp [Server.outputs]
    · exact ⟨[], [last], rfl, .none beyond, serve_silent interpreter server nothing noMessage⟩
  | cons incoming before ih =>
    rcases readMessage_append bytes more with same | ⟨nothing, noMessage, beyond⟩
    · obtain ⟨goesOn, other⟩ := calls.goOn incoming List.mem_cons_self
      obtain ⟨first, behind⟩ := calls.of_cons
      rw [same] at first behind
      obtain ⟨complete, later, split, ends, written⟩ :=
        ih behind (server.receive interpreter (readMessage bytes).1).server
      refine ⟨(readMessage bytes).1 :: complete, later, ?_, ends.cons same, ?_⟩
      · rw [first, List.cons_append, List.cons_append, split]
      · rw [← first] at goesOn other
        rw [serve_of_goesOn interpreter server goesOn other, Server.outputs, List.flatten_cons,
          ← written]
        rfl
    · exact ⟨[], _, rfl, .none beyond, serve_silent interpreter server nothing noMessage⟩

/-! ## How a session ends -/

theorem Calls.ending {bytes rest : List UInt8} {before : List Incoming} {last : Incoming}
    (calls : Calls bytes before last rest) (server : Server σ) :
    (serve interpreter server none bytes).ending = .ofLast last := by
  induction before generalizing bytes server with
  | nil =>
    obtain ⟨first, -⟩ := readMessages_cons calls.read
    have stop := calls.stop
    rw [← first] at stop ⊢
    rw [serve_of_stop interpreter server stop]
  | cons incoming before ih =>
    obtain ⟨goesOn, other⟩ := calls.goOn incoming List.mem_cons_self
    obtain ⟨first, behind⟩ := calls.of_cons
    rw [← first] at goesOn other
    rw [serve_of_goesOn interpreter server goesOn other]
    exact ih behind _

/-- A session ends within a message exactly where its stream is over within the body of one, and all
that its reader finds before goes on. -/
theorem serve_cutShort_iff (server : Server σ) {bytes : List UInt8} :
    (serve interpreter server none bytes).ending = .cutShort ↔
      ∃ found behind, readMessages found.length bytes = (found, behind) ∧
        (∀ incoming ∈ found, incoming.goesOn = true ∧ incoming.isDisconnect = false) ∧
        behind <:+ bytes ∧ WithinBody behind := by
  constructor
  · intro ending
    obtain ⟨before, last, rest, calls, -⟩ := serve_eq interpreter server bytes
    rw [calls.ending interpreter server] at ending
    obtain ⟨behind, read, final⟩ := readMessages_concat rfl calls.read
    have suffix := readMessages_suffix before.length bytes
    rw [read] at suffix
    have cut : last = .cutShort := by
      cases last with
      | cutShort => rfl
      | message | fault | ended => cases ending
    exact ⟨before, behind, read, calls.goOn, suffix,
      readMessage_cutShort_iff.1 (by rw [final, cut])⟩
  · rintro ⟨found, behind, read, goOn, -, within⟩
    have cut := readMessage_cutShort_iff.2 within
    have calls : Calls bytes found .cutShort (readMessage behind).2 :=
      ⟨readMessages_snoc read cut, goOn, .inr rfl⟩
    exact calls.ending interpreter server

/-! ## The whole stream -/

/-- Bytes behind a stream change nothing about what a session writes on the things that end before
them: it hears the same things first, and writes the same on each. A session ends well, or else its
stream is over within the body of a message. -/
theorem serve_append (server : Server σ) (bytes more : List UInt8) :
    let cut := serve interpreter server none bytes
    let whole := serve interpreter server none (bytes ++ more)
    (∃ before last complete later, Calls (bytes ++ more) before last whole.unread ∧
      before ++ [last] = complete ++ later ∧ EndsWithin bytes more complete later ∧
      cut.written = (server.outputs interpreter complete).flatten ∧
      whole.written = (server.outputs interpreter (complete ++ later)).flatten) ∧
    cut.written <+: whole.written ∧
    (cut.ending = .ok ∨ cut.ending = .cutShort) ∧
    (cut.ending = .cutShort ↔
      ∃ found behind, readMessages found.length bytes = (found, behind) ∧
        (∀ incoming ∈ found, incoming.goesOn = true ∧ incoming.isDisconnect = false) ∧
        behind <:+ bytes ∧ WithinBody behind) := by
  intro cut whole
  obtain ⟨before, last, rest, calls, same⟩ := serve_eq interpreter server (bytes ++ more)
  obtain ⟨complete, later, split, ends, cutWritten⟩ := calls.cut interpreter server
  rw [split] at same
  have written : whole.written = (server.outputs interpreter (complete ++ later)).flatten :=
    congrArg Session.written same
  have unread : whole.unread = rest := congrArg Session.unread same
  refine ⟨⟨before, last, complete, later, unread ▸ calls, split, ends, cutWritten, written⟩, ?_, ?_,
    serve_cutShort_iff interpreter server⟩
  · rw [show cut.written = _ from cutWritten, written, Server.outputs_append, List.flatten_append]
    exact List.prefix_append _ _
  · obtain ⟨found, final, _, heard, -⟩ := serve_eq interpreter server bytes
    rw [show cut.ending = _ from heard.ending interpreter server]
    cases final <;> simp [SessionEnd.ofLast]

end Session

end Tutor
