import Tutor.Child.Input
import Tutor.Proofs.Json.Grammar
import Tutor.Proofs.Text.Lines

/-!
What becomes of the values that are sent to a child.

As no control character stands in a string of JSON, however many the text holds, the lines of an
input never fall out of step with the values. So of the values that were to be sent, the child has
taken the first, the next have gone in and are left, and the last did not go in (`ChildInput.Holds`),
whatever the child does (`ChildInput.Given`); none is lost while the child keeps its end open.
-/

namespace Tutor

/-! ## One value -/

/-- The bytes of a value in front of the line feed. -/
def encodeValue (value : String) : List UInt8 := Utf8.encode (Json.renderText value.toList)

/-- The value that a line without its line feed stands for. -/
def decodeValue? (line : List UInt8) : Option String := (Utf8.read? line).bind Json.readString?

theorem inputLine_eq (value : String) : inputLine value = encodeValue value ++ [10] :=
  Utf8.encode_append _ _

theorem decodeValue?_encodeValue (value : String) :
    decodeValue? (encodeValue value) = some value := by
  rw [decodeValue?, encodeValue, Utf8.read?_encode, Option.bind_some]
  exact (Json.readString?_literal (Json.spells_escape value.toList)).trans
    (congrArg some String.ofList_toList)

/-- Nothing in a value is written as a control character. -/
theorem encodeValue_visible {value : String} {byte : UInt8} (member : byte ∈ encodeValue value) :
    0x20 ≤ byte.toNat := by
  refine Utf8.visible_of_mem_encode (fun c inside => ?_) member
  by_contra control
  exact (Json.spells_escape value.toList).not_mem_quote (Nat.not_le.1 control) inside

theorem feed_not_mem_encodeValue (value : String) : 10 ∉ encodeValue value :=
  fun member => absurd (encodeValue_visible member) (by decide)

theorem splitOn_inputLines (values : List String) :
    (values.flatMap inputLine).splitOn 10 = values.map encodeValue ++ [[]] := by
  have lines : values.flatMap inputLine = (values.map encodeValue).flatMap (· ++ [10]) := by
    rw [List.flatMap_map]
    exact congrArg values.flatMap (funext inputLine_eq)
  rw [lines, Text.splitOn_flatMap_concat]
  exact List.forall_mem_map.2 fun value _ => feed_not_mem_encodeValue value

/-- The line of the first value is the first line. -/
theorem takeLine_inputLines (value : String) (values : List String) :
    Text.takeLine ((value :: values).flatMap inputLine) =
      (inputLine value, values.flatMap inputLine) := by
  rw [List.flatMap_cons, inputLine_eq, List.append_assoc, List.singleton_append,
    Text.takeLine_append (feed_not_mem_encodeValue value)]

theorem inputLine_ne_nil (value : String) : inputLine value ≠ [] := by
  rw [inputLine_eq]
  exact List.concat_ne_nil _ _

namespace ChildInput

/-! ## Values -/

/-- What became of some values that were to be sent: the child has taken the first, those that are
left have gone in as well, and those that are lost have not. None is lost while the child can take
what is left. -/
structure Holds (input : ChildInput) (taken left lost : List String) : Prop where
  sent : input.sent = (taken ++ left).flatMap inputLine
  taken : input.taken = taken.map inputLine
  unread : ∀ rest ∈ input.unread, rest = left.flatMap inputLine ∧ lost = []
  undelivered : input.undelivered = List.replicate lost.length .brokenPipe

/-- These values were to be sent, in this order, and nothing else was. -/
def Given (input : ChildInput) (values : List String) : Prop :=
  ∃ taken left lost, taken ++ left ++ lost = values ∧ input.Holds taken left lost

variable {input : ChildInput} {values : List String}

/-- A submission that is sent is the first value. -/
theorem given_of_opening {child : Child} {source : String}
    (delivered : child.opening.send source = .ok input) :
    input.Given [source] ∧ input.unread.isSome = true := by
  have fresh : child.opening = new := by
    cases child with
    | closes next => cases delivered
    | exits | writes | reads => rfl
  rw [fresh] at delivered
  cases delivered
  have line : inputLine source = [source].flatMap inputLine := (List.flatMap_singleton ..).symm
  refine ⟨⟨[], [source], [], rfl, line, rfl, ?_, rfl⟩, rfl⟩
  intro rest isRest
  cases isRest
  exact ⟨line, rfl⟩

theorem Given.answer (given : input.Given values) (value : String) :
    (input.answer value).Given (values ++ [value]) := by
  obtain ⟨taken, left, lost, rfl, holds⟩ := given
  cases unread : input.unread with
  | some rest =>
    obtain ⟨same, none⟩ := holds.unread rest unread
    subst none
    refine ⟨taken, left ++ [value], [], by simp, ?_⟩
    simp only [ChildInput.answer, send, unread]
    refine ⟨by simp [holds.sent], holds.taken, ?_, holds.undelivered⟩
    intro rest isRest
    cases isRest
    exact ⟨by simp [same], rfl⟩
  | none =>
    refine ⟨taken, left, lost ++ [value], by simp, ?_⟩
    simp only [ChildInput.answer, send, unread]
    refine ⟨holds.sent, holds.taken, nofun, ?_⟩
    simp [holds.undelivered, List.replicate_succ']

theorem Given.answerAll (given : input.Given values) (replies : List String) :
    (replies.foldl ChildInput.answer input).Given (values ++ replies) := by
  induction replies generalizing input values with
  | nil => rwa [List.append_nil]
  | cons reply replies ih =>
    have later := ih (given.answer reply)
    rwa [List.append_assoc, List.singleton_append] at later

/-- A child takes the line of the first value that is left. -/
theorem Given.deliver (given : input.Given values) : input.deliver.2.Given values := by
  obtain ⟨taken, left, lost, rfl, holds⟩ := given
  rw [ChildInput.deliver]
  cases unread : input.unread with
  | none => exact ⟨taken, left, lost, rfl, holds⟩
  | some rest =>
    obtain ⟨rfl, rfl⟩ := holds.unread rest unread
    cases left with
    | nil => exact ⟨taken, [], [], rfl, holds⟩
    | cons value left =>
      simp only [takeLine_inputLines, if_neg (inputLine_ne_nil value)]
      refine ⟨taken ++ [value], left, [], by simp, ?_⟩
      refine ⟨by simp [holds.sent], by simp [holds.taken], ?_, holds.undelivered⟩
      intro rest isRest
      cases isRest
      exact ⟨rfl, rfl⟩

theorem Given.close (given : input.Given values) : input.close.Given values := by
  obtain ⟨taken, left, lost, same, holds⟩ := given
  exact ⟨taken, left, lost, same, holds.sent, holds.taken, nofun, holds.undelivered⟩

/-- While the child can take what is left, everything has gone in. -/
theorem Given.sent_of_isSome (given : input.Given values) (isOpen : input.unread.isSome = true) :
    input.sent = values.flatMap inputLine := by
  obtain ⟨taken, left, lost, rfl, holds⟩ := given
  obtain ⟨rest, unread⟩ := Option.isSome_iff_exists.1 isOpen
  obtain ⟨-, rfl⟩ := holds.unread rest unread
  rw [holds.sent, List.append_nil]

/-- What the child can take is what has gone in behind the lines that it has taken. -/
theorem Given.sent_of_unread (given : input.Given values) {rest : List UInt8}
    (unread : input.unread = some rest) : input.sent = input.taken.flatten ++ rest := by
  obtain ⟨taken, left, lost, -, holds⟩ := given
  rw [holds.sent, holds.taken, (holds.unread rest unread).1, List.flatMap_append, List.flatMap_def]

/-! ## The end of the child -/

theorem isSome_unread_answer (input : ChildInput) (value : String) :
    (input.answer value).unread.isSome = input.unread.isSome := by
  rw [answer, send]
  cases unread : input.unread with
  | some rest => rfl
  | none => rfl

theorem isSome_unread_answerAll (input : ChildInput) (replies : List String) :
    (replies.foldl answer input).unread.isSome = input.unread.isSome := by
  induction replies generalizing input with
  | nil => rfl
  | cons reply replies ih => exact (ih _).trans (input.isSome_unread_answer reply)

theorem isSome_unread_deliver (input : ChildInput) :
    input.deliver.2.unread.isSome = input.unread.isSome := by
  rw [deliver]
  cases unread : input.unread with
  | none => exact congrArg Option.isSome unread
  | some rest =>
    simp only
    split
    · exact congrArg Option.isSome unread
    · rfl

end ChildInput

end Tutor
