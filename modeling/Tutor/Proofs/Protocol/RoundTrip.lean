import Tutor.Proofs.Json.RoundTrip
import Tutor.Proofs.Protocol.Stream

/-!
Reading back messages that were written.

The fields of a message are written in a fixed order, `null` for those that are absent, and read
from the shape of the object: `Message.ofFields?_fields` says that the shape of one content is never
taken for that of another. With the round trip of JSON texts and that of frames, a message is read
from its frame whatever stands behind it (`readMessage_written`).
-/

namespace Tutor

open Json

/-- A value that may be absent. Where it is there, it is canonical, and not the value that stands
for one that is absent. -/
def CanonicalIfPresent (v : Option Value) : Prop :=
  ∀ value ∈ v, value.Canonical ∧ value ≠ .null

/-- A content whose numbers fit their words. -/
def MessageContent.Canonical : MessageContent → Prop
  | response requestSeq _ _ _ body => requestSeq < Text.wordBound ∧ CanonicalIfPresent body
  | request _ arguments => CanonicalIfPresent arguments
  | event _ body => CanonicalIfPresent body

/-- A message whose numbers fit their words. -/
structure Message.Canonical (m : Message) : Prop where
  seq : m.seq < Text.wordBound
  content : m.content.Canonical

/-! ## Values of fields -/

theorem canonical_natural {n : Nat} (word : n < Text.wordBound) :
    (Value.number (.whole n)).Canonical := by
  have low : -(Text.wordBound / 2 : Nat) ≤ (n : Int) := by omega
  have high : (n : Int) < Text.wordBound := Int.ofNat_lt.2 word
  exact .number ⟨low, high⟩

theorem canonical_valueOrNull {v : Option Value} (canonical : CanonicalIfPresent v) :
    (MessageContent.valueOrNull v).Canonical := by
  cases v with
  | none => exact .null
  | some value => exact (canonical value rfl).1

theorem canonical_textOrNull (s : Option String) :
    (MessageContent.valueOrNull (s.map .string)).Canonical := by
  cases s with
  | none => exact .null
  | some s => exact .string s

theorem present?_valueOrNull {v : Option Value} (canonical : CanonicalIfPresent v) :
    present? (some (MessageContent.valueOrNull v)) = v := by
  cases v with
  | none => rfl
  | some value =>
    have there : value ≠ .null := (canonical value rfl).2
    cases value with
    | null => exact absurd rfl there
    | _ => rfl

theorem asOptionalString?_textOrNull (s : Option String) :
    asOptionalString? (some (MessageContent.valueOrNull (s.map .string))) = some s := by
  cases s <;> rfl

theorem asNatural?_natural {n : Nat} (word : n < Text.wordBound) :
    asNatural? (.number (.whole n)) = some n :=
  if_pos word

/-! ## Messages -/

theorem MessageContent.fields_canonical {content : MessageContent}
    (canonical : content.Canonical) : ∀ field ∈ content.fields, field.2.Canonical := by
  cases content with
  | response requestSeq success command message body =>
    simp only [fields, List.forall_mem_cons]
    exact ⟨canonical_natural canonical.1, .bool success, .string command,
      canonical_textOrNull message, canonical_valueOrNull canonical.2, nofun⟩
  | request command arguments =>
    simp only [fields, List.forall_mem_cons]
    exact ⟨.string command, canonical_valueOrNull canonical, nofun⟩
  | event name body =>
    simp only [fields, List.forall_mem_cons]
    exact ⟨.string name, canonical_valueOrNull canonical, nofun⟩

theorem Message.fields_canonical {m : Message} (canonical : m.Canonical) :
    ∀ field ∈ m.fields, field.2.Canonical := by
  simp only [fields, List.forall_mem_cons]
  exact ⟨canonical_natural canonical.seq, .string m.type,
    MessageContent.fields_canonical canonical.content⟩

/-- A content is read from its own fields, behind the number and the type. -/
theorem MessageContent.ofFields?_fields {content : MessageContent} (canonical : content.Canonical)
    (seq type : Value) :
    ofFields? (("seq", seq) :: ("type", type) :: content.fields) = some content := by
  cases content with
  | response requestSeq success command message body =>
    have response : response? (("seq", seq) :: ("type", type) ::
        (MessageContent.response requestSeq success command message body).fields) =
          some (.response requestSeq success command message body) := by
      simp [response?, fields, exactlyOnce, atMostOnce, asBool?, asString?,
        asNatural?_natural canonical.1, asOptionalString?_textOrNull,
        present?_valueOrNull canonical.2]
    rw [ofFields?, response, Option.some_or]
  | request command arguments =>
    -- Only a response tells which request it answers.
    have noResponse : response? (("seq", seq) :: ("type", type) ::
        (MessageContent.request command arguments).fields) = none := by
      simp [response?, fields, exactlyOnce, atMostOnce]
    have request : request? (("seq", seq) :: ("type", type) ::
        (MessageContent.request command arguments).fields) = some (.request command arguments) := by
      simp [request?, fields, exactlyOnce, atMostOnce, asString?, present?_valueOrNull canonical]
    rw [ofFields?, noResponse, request, Option.none_or, Option.some_or]
  | event name body =>
    have noResponse : response? (("seq", seq) :: ("type", type) ::
        (MessageContent.event name body).fields) = none := by
      simp [response?, fields, exactlyOnce, atMostOnce]
    have noRequest : request? (("seq", seq) :: ("type", type) ::
        (MessageContent.event name body).fields) = none := by
      simp [request?, fields, exactlyOnce, atMostOnce]
    have event : event? (("seq", seq) :: ("type", type) ::
        (MessageContent.event name body).fields) = some (.event name body) := by
      simp [event?, fields, exactlyOnce, atMostOnce, asString?, present?_valueOrNull canonical]
    rw [ofFields?, noResponse, noRequest, event, Option.none_or, Option.none_or]

/-- No field of a content has the name of the number or of the type. -/
theorem MessageContent.fields_names (content : MessageContent) :
    ∀ field ∈ content.fields, field.1 ≠ "seq" ∧ field.1 ≠ "type" := by
  cases content <;> simp [fields]

theorem exactlyOnce_head {name : String} {fields : List Field} (value : Value)
    (other : ∀ field ∈ fields, field.1 ≠ name) :
    exactlyOnce name ((name, value) :: fields) = some value := by
  have rest : fields.filter (·.1 == name) = [] := by
    simpa [List.filter_eq_nil_iff] using other
  simp [exactlyOnce, atMostOnce, rest]

theorem exactlyOnce_skip {name : String} {field : Field} (fields : List Field)
    (other : field.1 ≠ name) : exactlyOnce name (field :: fields) = exactlyOnce name fields := by
  simp [exactlyOnce, atMostOnce, other]

theorem Message.ofFields?_fields {m : Message} (canonical : m.Canonical) :
    ofFields? m.fields = some m := by
  have names := m.content.fields_names
  have distinct : "type" ≠ "seq" := by decide
  have seq : exactlyOnce "seq" m.fields = some (.number (.whole m.seq)) :=
    exactlyOnce_head _ (List.forall_mem_cons.2 ⟨distinct, fun field mem => (names field mem).1⟩)
  have type : exactlyOnce "type" m.fields = some (.string m.type) :=
    (exactlyOnce_skip _ distinct.symm).trans
      (exactlyOnce_head _ fun field mem => (names field mem).2)
  have content : MessageContent.ofFields? m.fields = some m.content :=
    MessageContent.ofFields?_fields canonical.content _ _
  simp [ofFields?, seq, type, content, asNatural?_natural canonical.seq, asString?]

theorem Message.ofJson?_json {m : Message} (canonical : m.Canonical)
    (shallow : (Value.object m.fields).depth ≤ maxDepth) : ofJson? m.json = some m := by
  have read : Document.read? m.json = some (.object m.fields) :=
    Document.read?_renderFields (m.fields_canonical canonical) shallow
  rw [ofJson?, read]
  exact ofFields?_fields canonical

/-- A message whose text is neither too long nor too deep is read from its frame, and exactly the
frame is read: what follows it stays. -/
theorem readMessage_written {m : Message} (canonical : m.Canonical)
    (within : (Utf8.encode m.json).length ≤ maxLength)
    (shallow : (Value.object m.fields).depth ≤ maxDepth) (rest : List UInt8) :
    readMessage (m.frame ++ rest) = (.message m, rest) := by
  have body : Incoming.ofFrame (Utf8.encode m.json) = .message m := by
    rw [Incoming.ofFrame, Utf8.read?_encode, Option.bind_some,
      Message.ofJson?_json canonical shallow]
  rw [Message.frame, readMessage_frame within, body]

/-- A refusal with the largest numbers, a text that needs escapes and nested fields in order, in
front of bytes that look like a frame. -/
theorem readMessage_written_response :
    let body := Value.object [
      ("", .array [.null, .number (.whole (-9223372036854775808)), .bool false]),
      ("output", .object [("π", .string "a\"b\\\n\t")])]
    let m : Message :=
      ⟨18446744073709551615, "response", .response 0 false "rün" (some "null") (some body)⟩
    let rest := Utf8.encode "Content-Length: 1\r\n\r\n".toList
    m.Canonical ∧ (Utf8.encode m.json).length ≤ maxLength ∧
      (Value.object m.fields).depth ≤ maxDepth ∧
      readMessage (m.frame ++ rest) = (.message m, rest) := by
  intro body m rest
  have items : ∀ item ∈ [Value.null, .number (.whole (-9223372036854775808)), .bool false],
      item.Canonical := by
    simp only [List.forall_mem_cons]
    exact ⟨.null, .number ⟨by decide, by decide⟩, .bool false, nofun⟩
  have inner : (Value.object [("π", .string "a\"b\\\n\t")]).Canonical :=
    .object (List.pairwise_singleton _ _) (by simpa using Value.Canonical.string _)
  have rising : "" < "output" := by decide +kernel
  have present : body.Canonical := by
    refine .object (List.pairwise_pair.2 rising) ?_
    simp only [List.forall_mem_cons]
    exact ⟨.array items, inner, nofun⟩
  have canonical : m.Canonical := by
    refine ⟨by decide, by decide, ?_⟩
    rintro _ ⟨⟩
    exact ⟨present, nofun⟩
  have within : (Utf8.encode m.json).length ≤ maxLength := by
    subst m body
    decide +kernel
  have shallow : (Value.object m.fields).depth ≤ maxDepth := by
    subst m body
    decide +kernel
  exact ⟨canonical, within, shallow, readMessage_written canonical within shallow rest⟩

end Tutor
