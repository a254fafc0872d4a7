import Tutor.Proofs.Json.Grammar
import Tutor.Proofs.Protocol.Header

/-!
The shape of a message.

`Variant.Shape` says which fields each of the three contents has, as a relation between the fields
of an object and what they say. The first variant that an object has the shape of is the one that is
read, whatever the type (`Message.ofFields?_iff`), and so no other field has a say
(`Variant.Reads.of_agree`). With the grammar of JSON this tells for the text of every frame what a
reader makes of it (`readMessage_json`).
-/

namespace Tutor

open Json

/-! ## Fields -/

/-- What an object bears under a name: the value of the field, or nothing where there is no such
field or only `null`. -/
inductive Bears (fields : List Field) (name : String) : Option Value → Prop
  | absent : (∀ v, (name, v) ∉ fields) → Bears fields name none
  | null : (name, .null) ∈ fields → Bears fields name none
  | value {v : Value} : (name, v) ∈ fields → v ≠ .null → Bears fields name (some v)

/-- No field of the object of a text comes twice. -/
def Json.Document.Distinct : Document → Prop
  | .plain _ => True
  | .object fields => (fields.map Prod.fst).Nodup

/-- Two objects bear the same under these names. -/
def Agree (names : List String) (fields others : List Field) : Prop :=
  ∀ name ∈ names, ∀ v, Bears fields name v ↔ Bears others name v

/-! ## Shapes -/

/-- The three kinds of messages. -/
inductive Variant
  | response
  | request
  | event

namespace Variant

/-- The fields that a message of this kind looks at. -/
def names : Variant → List String
  | response => ["seq", "type", "request_seq", "success", "command", "message", "body"]
  | request => ["seq", "type", "command", "arguments"]
  | event => ["seq", "type", "event", "body"]

/-- The kinds that are tried first. -/
def before : Variant → List Variant
  | response => []
  | request => [response]
  | event => [response, request]

/-- An object has the shape of this kind, and its fields say the content. -/
inductive Shape (fields : List Field) : Variant → MessageContent → Prop
  | response {requestSeq : Nat} {success : Bool} {command : String} {message : Option String}
      {body : Option Value} :
    Bears fields "request_seq" (some (.number (.whole requestSeq))) → requestSeq < Text.wordBound →
    Bears fields "success" (some (.bool success)) →
    Bears fields "command" (some (.string command)) →
    Bears fields "message" (message.map .string) → Bears fields "body" body →
    Shape fields response (.response requestSeq success command message body)
  | request {command : String} {arguments : Option Value} :
    Bears fields "command" (some (.string command)) → Bears fields "arguments" arguments →
    Shape fields request (.request command arguments)
  | event {name : String} {body : Option Value} :
    Bears fields "event" (some (.string name)) → Bears fields "body" body →
    Shape fields event (.event name body)

/-- An object is a message of this kind: it has a number, a type, the shape of the kind, and the
shape of no kind that is tried before. -/
structure Reads (fields : List Field) (variant : Variant) (m : Message) : Prop where
  seq : Bears fields "seq" (some (.number (.whole m.seq)))
  word : m.seq < Text.wordBound
  type : Bears fields "type" (some (.string m.type))
  shape : variant.Shape fields m.content
  first : ∀ earlier ∈ variant.before, ∀ content, ¬ earlier.Shape fields content

end Variant

/-! ## Reading fields -/

section Fields

variable {fields : List Field} {name : String}

theorem atMostOnce_iff (distinct : (fields.map Prod.fst).Nodup) {v : Option Value} :
    atMostOnce name fields = some v ↔
      v = none ∧ (∀ w, (name, w) ∉ fields) ∨ ∃ w, v = some w ∧ (name, w) ∈ fields := by
  induction fields with
  | nil => simp [atMostOnce, eq_comm]
  | cons field fields ih =>
    obtain ⟨other, w⟩ := field
    rw [List.map_cons, List.nodup_cons] at distinct
    by_cases same : other = name
    · subst same
      have once : ∀ u, (other, u) ∉ fields := fun u member =>
        distinct.1 (List.mem_map.2 ⟨_, member, rfl⟩)
      have rest : fields.filter (·.1 == other) = [] := by
        rw [List.filter_eq_nil_iff]
        rintro ⟨_, u⟩ member named
        cases eq_of_beq named
        exact once u member
      have found : atMostOnce other ((other, w) :: fields) = some (some w) := by
        simp [atMostOnce, rest]
      rw [found]
      simp [once, eq_comm]
    · have skip : atMostOnce name ((other, w) :: fields) = atMostOnce name fields := by
        simp [atMostOnce, same]
      rw [skip, ih distinct.2]
      simp [Ne.symm same]

theorem exactlyOnce_iff (distinct : (fields.map Prod.fst).Nodup) {v : Value} :
    exactlyOnce name fields = some v ↔ (name, v) ∈ fields := by
  rw [exactlyOnce, Option.bind_eq_some_iff]
  simp [atMostOnce_iff distinct]

theorem present?_eq_none_iff {v : Option Value} :
    present? v = none ↔ v = none ∨ v = some .null := by
  cases v with
  | none => simp [present?]
  | some v => cases v <;> simp [present?]

theorem present?_eq_some_iff {v : Option Value} {w : Value} :
    present? v = some w ↔ v = some w ∧ w ≠ .null := by
  cases v with
  | none => simp [present?]
  | some v =>
    cases v with
    | null => simp [present?, eq_comm]
    | _ =>
      simp only [present?, Option.some_inj]
      exact ⟨fun same => ⟨same, same ▸ Value.noConfusion⟩, And.left⟩

/-- What an object bears is its field, if it has one that is not `null`. -/
theorem bears_iff (distinct : (fields.map Prod.fst).Nodup) {v : Option Value} :
    Bears fields name v ↔ ∃ w, atMostOnce name fields = some w ∧ present? w = v := by
  simp only [atMostOnce_iff distinct]
  constructor
  · intro bears
    cases bears with
    | absent nowhere => exact ⟨none, .inl ⟨rfl, nowhere⟩, rfl⟩
    | null member => exact ⟨some .null, .inr ⟨_, rfl, member⟩, rfl⟩
    | value member notNull =>
      exact ⟨_, .inr ⟨_, rfl, member⟩, present?_eq_some_iff.2 ⟨rfl, notNull⟩⟩
  · rintro ⟨_, ⟨rfl, nowhere⟩ | ⟨w, rfl, member⟩, rfl⟩
    · exact .absent nowhere
    · cases same : present? (some w) with
      | none =>
        rcases present?_eq_none_iff.1 same with same | same
        · cases same
        · cases same
          exact .null member
      | some v =>
        obtain ⟨same, notNull⟩ := present?_eq_some_iff.1 same
        cases same
        exact .value member notNull

/-- A value that is borne is a field. -/
theorem Bears.mem {v : Value} (bears : Bears fields name (some v)) : (name, v) ∈ fields := by
  cases bears with
  | value member => exact member

theorem asString?_iff {v : Value} {s : String} : asString? v = some s ↔ v = .string s := by
  cases v <;> simp [asString?]

theorem asBool?_iff {v : Value} {b : Bool} : asBool? v = some b ↔ v = .bool b := by
  cases v <;> simp [asBool?]

theorem asNatural?_iff {v : Value} {n : Nat} :
    asNatural? v = some n ↔ v = .number (.whole n) ∧ n < Text.wordBound := by
  constructor
  · intro read
    unfold asNatural? at read
    split at read
    · split at read
      · cases read
        exact ⟨rfl, by assumption⟩
      · cases read
    · cases read
  · rintro ⟨rfl, word⟩
    exact if_pos word

theorem asOptionalString?_iff {v : Option Value} {s : Option String} :
    asOptionalString? v = some s ↔ present? v = s.map .string := by
  unfold asOptionalString?
  cases present? v with
  | none => cases s <;> simp
  | some w => cases s <;> simp [asString?_iff]

end Fields

/-! ## Reading objects -/

section Objects

variable {fields others : List Field}

theorem response?_iff (distinct : (fields.map Prod.fst).Nodup) {content : MessageContent} :
    MessageContent.response? fields = some content ↔ Variant.response.Shape fields content := by
  simp only [MessageContent.response?, Option.bind_eq_bind, Option.bind_eq_some_iff,
    exactlyOnce_iff distinct, asNatural?_iff, asBool?_iff, asString?_iff, asOptionalString?_iff]
  constructor
  · rintro ⟨_, seq, n, ⟨rfl, word⟩, _, success, b, rfl, _, command, c, rfl, _, message, text,
      isText, _, body, same⟩
    cases same
    exact .response (.value seq Value.noConfusion) word (.value success Value.noConfusion)
      (.value command Value.noConfusion) ((bears_iff distinct).2 ⟨_, message, isText⟩)
      ((bears_iff distinct).2 ⟨_, body, rfl⟩)
  · rintro ⟨⟩
    rename_i seq word success command message body
    obtain ⟨message, found, isText⟩ := (bears_iff distinct).1 message
    obtain ⟨body, foundBody, same⟩ := (bears_iff distinct).1 body
    subst same
    exact ⟨_, seq.mem, _, ⟨rfl, word⟩, _, success.mem, _, rfl, _,
      command.mem, _, rfl, _, found, _, isText, _, foundBody, rfl⟩

theorem request?_iff (distinct : (fields.map Prod.fst).Nodup) {content : MessageContent} :
    MessageContent.request? fields = some content ↔ Variant.request.Shape fields content := by
  simp only [MessageContent.request?, Option.bind_eq_bind, Option.bind_eq_some_iff,
    exactlyOnce_iff distinct, asString?_iff]
  constructor
  · rintro ⟨_, command, c, rfl, _, arguments, same⟩
    cases same
    exact .request (.value command Value.noConfusion) ((bears_iff distinct).2 ⟨_, arguments, rfl⟩)
  · rintro ⟨⟩
    rename_i command arguments
    obtain ⟨arguments, found, same⟩ := (bears_iff distinct).1 arguments
    subst same
    exact ⟨_, command.mem, _, rfl, _, found, rfl⟩

theorem event?_iff (distinct : (fields.map Prod.fst).Nodup) {content : MessageContent} :
    MessageContent.event? fields = some content ↔ Variant.event.Shape fields content := by
  simp only [MessageContent.event?, Option.bind_eq_bind, Option.bind_eq_some_iff,
    exactlyOnce_iff distinct, asString?_iff]
  constructor
  · rintro ⟨_, named, c, rfl, _, body, same⟩
    cases same
    exact .event (.value named Value.noConfusion) ((bears_iff distinct).2 ⟨_, body, rfl⟩)
  · rintro ⟨⟩
    rename_i named body
    obtain ⟨body, found, same⟩ := (bears_iff distinct).1 body
    subst same
    exact ⟨_, named.mem, _, rfl, _, found, rfl⟩

/-- Reads the content of one kind. -/
def Variant.read : Variant → List Field → Option MessageContent
  | response => MessageContent.response?
  | request => MessageContent.request?
  | event => MessageContent.event?

theorem Variant.read_iff (distinct : (fields.map Prod.fst).Nodup) {variant : Variant}
    {content : MessageContent} :
    variant.read fields = some content ↔ variant.Shape fields content := by
  cases variant with
  | response => exact response?_iff distinct
  | request => exact request?_iff distinct
  | event => exact event?_iff distinct

theorem Variant.read_none_iff (distinct : (fields.map Prod.fst).Nodup) {variant : Variant} :
    variant.read fields = none ↔ ∀ content, ¬ variant.Shape fields content := by
  simp only [Option.eq_none_iff_forall_ne_some, ne_eq, Variant.read_iff distinct]

/-- The content that is read is that of the first kind of which the object has the shape. -/
theorem ofFields?_content_iff (distinct : (fields.map Prod.fst).Nodup) {content : MessageContent} :
    MessageContent.ofFields? fields = some content ↔ ∃ variant : Variant,
      variant.Shape fields content ∧
        ∀ earlier ∈ variant.before, ∀ content, ¬ earlier.Shape fields content := by
  have tried : MessageContent.ofFields? fields = (Variant.response.read fields).or
      ((Variant.request.read fields).or (Variant.event.read fields)) := rfl
  simp only [tried, Option.or_eq_some_iff, Variant.read_iff distinct,
    Variant.read_none_iff distinct]
  constructor
  · rintro (response | ⟨noResponse, request | ⟨noRequest, event⟩⟩)
    · exact ⟨.response, response, nofun⟩
    · exact ⟨.request, request, by simpa [Variant.before] using noResponse⟩
    · exact ⟨.event, event, by simpa [Variant.before] using ⟨noResponse, noRequest⟩⟩
  · rintro ⟨variant, shape, first⟩
    cases variant with
    | response => exact .inl shape
    | request => exact .inr ⟨first .response (by simp [Variant.before]), .inl shape⟩
    | event =>
      exact .inr ⟨first .response (by simp [Variant.before]),
        .inr ⟨first .request (by simp [Variant.before]), shape⟩⟩

/-- Exactly the messages of some kind are read from an object. -/
theorem Message.ofFields?_iff (distinct : (fields.map Prod.fst).Nodup) {m : Message} :
    Message.ofFields? fields = some m ↔ ∃ variant : Variant, variant.Reads fields m := by
  simp only [Message.ofFields?, Option.bind_eq_bind, Option.bind_eq_some_iff,
    exactlyOnce_iff distinct, asNatural?_iff, asString?_iff, ofFields?_content_iff distinct]
  constructor
  · rintro ⟨_, seq, n, ⟨rfl, word⟩, _, type, s, rfl, content, ⟨variant, shape, first⟩, same⟩
    cases same
    exact ⟨variant, .value seq Value.noConfusion, word, .value type Value.noConfusion, shape, first⟩
  · rintro ⟨variant, seq, word, type, shape, first⟩
    exact ⟨_, seq.mem, _, ⟨rfl, word⟩, _, type.mem, _, rfl, _,
      ⟨variant, shape, first⟩, rfl⟩

/-- The shape of a kind is a matter of its own fields. -/
theorem Variant.Shape.of_agree {variant : Variant} {content : MessageContent}
    (shape : variant.Shape fields content) (agree : Agree variant.names fields others) :
    variant.Shape others content := by
  cases shape with
  | response seq word success command message body =>
    exact .response ((agree "request_seq" (by simp [names]) _).1 seq) word
      ((agree "success" (by simp [names]) _).1 success)
      ((agree "command" (by simp [names]) _).1 command)
      ((agree "message" (by simp [names]) _).1 message)
      ((agree "body" (by simp [names]) _).1 body)
  | request command arguments =>
    exact .request ((agree "command" (by simp [names]) _).1 command)
      ((agree "arguments" (by simp [names]) _).1 arguments)
  | event named body =>
    exact .event ((agree "event" (by simp [names]) _).1 named)
      ((agree "body" (by simp [names]) _).1 body)

/-- Fields of other kinds do not matter, unless they give the object the shape of one that is tried
before. -/
theorem Variant.Reads.of_agree {variant : Variant} {m : Message} (reads : variant.Reads fields m)
    (agree : Agree variant.names fields others)
    (first : ∀ earlier ∈ variant.before, ∀ content, ¬ earlier.Shape others content) :
    variant.Reads others m where
  seq := (agree "seq" (by cases variant <;> simp [names]) _).1 reads.seq
  word := reads.word
  type := (agree "type" (by cases variant <;> simp [names]) _).1 reads.type
  shape := reads.shape.of_agree agree
  first := first

theorem Agree.symm {names : List String} (agree : Agree names fields others) :
    Agree names others fields := fun name member v => (agree name member v).symm

/-- Objects that agree on the fields of all kinds hold the same messages. -/
theorem Variant.reads_congr (agree : ∀ variant : Variant, Agree variant.names fields others)
    {variant : Variant} {m : Message} : variant.Reads fields m ↔ variant.Reads others m := by
  constructor
  · intro reads
    refine reads.of_agree (agree variant) fun earlier member content shape => ?_
    exact reads.first earlier member content (shape.of_agree (agree earlier).symm)
  · intro reads
    refine reads.of_agree (agree variant).symm fun earlier member content shape => ?_
    exact reads.first earlier member content (shape.of_agree (agree earlier))

end Objects

/-! ## Frames -/

/-- Bytes are a frame around a text, in front of `rest`: a header that tells the length of the text,
within the limit, and the text. -/
inductive FrameOf (text : List Char) (rest : List UInt8) : List UInt8 → Prop
  | mk {header : List UInt8} :
    HeaderBlock header (Utf8.encode text ++ rest) (Utf8.encode text).length →
    (Utf8.encode text).length ≤ maxLength → FrameOf text rest (header ++ (Utf8.encode text ++ rest))

theorem FrameOf.readMessage_eq {text : List Char} {rest bytes : List UInt8}
    (frame : FrameOf text rest bytes) :
    readMessage bytes = (.ofFrame (Utf8.encode text), rest) := by
  cases frame with
  | mk block within =>
    rw [readMessage_of_complete (headerBlock_iff.1 block)]
    exact readBody_append within rest

/-- The frames that this library writes are such frames. -/
theorem frameOf_frame {text : List Char} (within : (Utf8.encode text).length ≤ maxLength)
    (rest : List UInt8) : FrameOf text rest (frame (Utf8.encode text) ++ rest) := by
  have below : (Utf8.encode text).length < Text.wordBound := by
    have limit : maxLength < Text.wordBound := by decide
    omega
  have read := readHeader_frame below false 0 rest
  rw [frame, List.append_assoc] at read ⊢
  exact .mk (headerBlock_iff.2 read) within

/-- What a reader answers to a document: the message of the first kind of which it has the shape,
or that it is none. -/
inductive AnswerTo (d : Document) : Incoming → Prop
  | message {fields : List Field} {variant : Variant} {m : Message} :
    d = .object fields → variant.Reads fields m → AnswerTo d (.message m)
  | fault : (∀ fields, d = .object fields → ∀ (variant : Variant) m, ¬ variant.Reads fields m) →
    AnswerTo d (.fault .notMessage)

/-- No text without a word holds a document. -/
theorem Json.Holds.ne_nil {text : List Char} {d : Document} (holds : Holds text d) : text ≠ [] := by
  rintro rfl
  have read := Document.read?_iff.2 holds
  simp [Document.read?, Token.scan?, Token.scanFrom, Reader.run] at read

theorem ofFrame_encode {text : List Char} {d : Document} (holds : Holds text d)
    (distinct : d.Distinct) : AnswerTo d (.ofFrame (Utf8.encode text)) := by
  have nonempty : Utf8.encode text ≠ [] := Utf8.encode_eq_nil.not.2 holds.ne_nil
  rw [Incoming.ofFrame, Utf8.read?_encode, Option.bind_some, Message.ofJson?,
    Document.read?_iff.2 holds, if_neg nonempty]
  cases d with
  | plain v =>
    refine .fault fun fields same => ?_
    cases same
  | object fields =>
    simp only
    cases read : Message.ofFields? fields with
    | some m =>
      obtain ⟨variant, reads⟩ := (Message.ofFields?_iff distinct).1 read
      exact .message rfl reads
    | none =>
      refine .fault fun _ same variant m reads => ?_
      cases same
      cases read.symm.trans ((Message.ofFields?_iff distinct).2 ⟨variant, reads⟩)

/-- A document has one answer. -/
theorem AnswerTo.unique {d : Document} {incoming other : Incoming} (distinct : d.Distinct)
    (first : AnswerTo d incoming) (second : AnswerTo d other) : incoming = other := by
  cases first with
  | @message fields variant m same reads =>
    subst same
    cases second with
    | @message _ variant' m' same' reads' =>
      cases same'
      have read := (Message.ofFields?_iff distinct).2 ⟨variant, reads⟩
      have read' := (Message.ofFields?_iff distinct).2 ⟨variant', reads'⟩
      cases read.symm.trans read'
      rfl
    | fault noMessage => exact absurd reads (noMessage fields rfl variant m)
  | fault noMessage =>
    cases second with
    | message same reads => exact absurd reads (noMessage _ same _ _)
    | fault => rfl

/-- Documents that agree on the fields of all kinds have the same answer. -/
theorem AnswerTo.congr {fields others : List Field} {incoming : Incoming}
    (agree : ∀ variant : Variant, Agree variant.names fields others)
    (answers : AnswerTo (.object fields) incoming) : AnswerTo (.object others) incoming := by
  cases answers with
  | message same reads =>
    cases same
    exact .message rfl ((Variant.reads_congr agree).1 reads)
  | fault noMessage =>
    refine .fault fun _ same variant m reads => ?_
    cases same
    exact noMessage fields rfl variant m ((Variant.reads_congr agree).2 reads)

/-- A frame with a JSON text in which no field comes twice is answered by the shape of its object
alone: the first of the three kinds that has it is read, and what has none, or no number or type, is
refused. Fields in another order, fields of no meaning and fields that are `null` instead of absent
give the same answer, and so do other fields of the other kinds, unless they make up the shape of
one that is tried before. -/
theorem readMessage_json {text : List Char} {d : Document} {rest bytes : List UInt8}
    (holds : Holds text d) (distinct : d.Distinct) (frame : FrameOf text rest bytes) :
    (readMessage bytes).2 = rest ∧
    (∀ incoming, (readMessage bytes).1 = incoming ↔ AnswerTo d incoming) ∧
    ∀ (other : List Char) (fields others : List Field) (rest' bytes' : List UInt8),
      d = .object fields → Holds other (.object others) → (Document.object others).Distinct →
      FrameOf other rest' bytes' →
      ((∀ variant : Variant, Agree variant.names fields others) →
        (readMessage bytes').1 = (readMessage bytes).1) ∧
      ∀ (variant : Variant) (m : Message), variant.Reads fields m →
        Agree variant.names fields others →
        (∀ earlier ∈ variant.before, ∀ content, ¬ earlier.Shape others content) →
        (readMessage bytes').1 = .message m := by
  have answer := ofFrame_encode holds distinct
  rw [frame.readMessage_eq]
  refine ⟨rfl, fun incoming => ⟨?_, answer.unique distinct⟩, ?_⟩
  · intro same
    rwa [← same]
  · intro other fields others rest' bytes' same holds' distinct' frame'
    subst same
    have answer' := ofFrame_encode holds' distinct'
    rw [frame'.readMessage_eq]
    refine ⟨fun agree => answer'.unique distinct' (answer.congr agree), ?_⟩
    intro variant m reads agree first
    exact answer'.unique distinct' (.message rfl (reads.of_agree agree first))

/-- An object with the shapes of all three kinds, between gaps, with an escaped name, a field of no
meaning and `null` for a body: it is a response, though its type is that of an event. -/
theorem readMessage_json_overlap :
    let text := ("\n\x7b\"type\":\"event\", \"event\":\"e\", \"\\u0063ommand\":\"run\", " ++
      "\"success\":true, \"x\":[\x7b\x7d], \"request_seq\":7, \"body\":null, " ++
      "\"seq\" : 18446744073709551615\x7d ").toList
    let fields := [("type", .string "event"), ("event", .string "e"), ("command", .string "run"),
      ("success", .bool true), ("x", .array [.object []]), ("request_seq", .number (.whole 7)),
      ("body", .null), ("seq", .number (.whole 18446744073709551615))]
    let m : Message := ⟨18446744073709551615, "event", .response 7 true "run" none none⟩
    let rest := Utf8.encode "Content-Length: 0".toList
    Holds text (.object fields) ∧ (Document.object fields).Distinct ∧
      FrameOf text rest (frame (Utf8.encode text) ++ rest) ∧
      readMessage (frame (Utf8.encode text) ++ rest) = (.message m, rest) := by
  intro text fields m rest
  have holds : Holds text (.object fields) := by
    refine Document.read?_iff.1 ?_
    subst text fields
    set_option maxRecDepth 1000 in with_unfolding_all rfl
  have distinct : (Document.object fields).Distinct := by
    simp [Document.Distinct, fields]
  have within : (Utf8.encode text).length ≤ maxLength := by
    subst text
    decide +kernel
  have framed : FrameOf text rest (frame (Utf8.encode text) ++ rest) := frameOf_frame within rest
  have reads : Variant.response.Reads fields m := by
    refine ⟨.value ?_ Value.noConfusion, by decide, .value ?_ Value.noConfusion, ?_, ?_⟩
    · simp [fields, m]
    · simp [fields, m]
    · refine .response (.value ?_ Value.noConfusion) (by decide) (.value ?_ Value.noConfusion)
        (.value ?_ Value.noConfusion) (.absent ?_) (.null ?_)
      all_goals simp [fields]
    · exact fun _ earlier => absurd earlier List.not_mem_nil
  obtain ⟨left, answers, -⟩ := readMessage_json holds distinct framed
  exact ⟨holds, distinct, framed, Prod.ext ((answers _).2 (.message rfl reads)) left⟩

end Tutor
