import Tutor.Json.Reader
import Tutor.Proofs.Json.Words

/-!
The grammar of JSON.

`Tells` says which words make up a document, without the states of a reader: an array is its items
with commas between them, in brackets, and an object is its fields, in braces. The reader takes just
such words for a value, wherever it stands (`Tells.takes`, `tells_of_run`), so the texts that are
read are those of the grammar in which arrays and objects are not nested too deep
(`Document.read?_iff`).
-/

namespace Tutor.Json

/-- Groups of words with commas between them. -/
def separated (groups : List (List Token)) : List Token := [Token.comma].intercalate groups

/-- An item of an array: its words, and what they tell. -/
structure Item where
  words : List Token
  document : Document

/-- A field of an object. -/
structure Entry extends Item where
  name : String

/-- The words of a field. -/
def Entry.tokens (entry : Entry) : List Token := .string entry.name.toList :: .colon :: entry.words

/-- The field itself. -/
def Entry.field (entry : Entry) : Field := (entry.name, entry.document.toValue)

/-- The words tell the document, and arrays and objects are nested in it at most so deep. -/
inductive Tells : Nat → List Token → Document → Prop
  | null {depth : Nat} : Tells depth [.null] (.plain .null)
  | bool {depth : Nat} {b : Bool} : Tells depth [.bool b] (.plain (.bool b))
  | number {depth : Nat} {n : Number} : Tells depth [.number n] (.plain (.number n))
  | string {depth : Nat} {s : String} : Tells depth [.string s.toList] (.plain (.string s))
  | array {depth : Nat} {items : List Item} :
    (∀ item ∈ items, Tells depth item.words item.document) →
    Tells (depth + 1) (.leftBracket :: (separated (items.map (·.words)) ++ [.rightBracket]))
      (.plain (.array (items.map (·.document.toValue))))
  | object {depth : Nat} {entries : List Entry} :
    (∀ entry ∈ entries, Tells depth entry.words entry.document) →
    Tells (depth + 1) (.leftBrace :: (separated (entries.map Entry.tokens) ++ [.rightBrace]))
      (.object (entries.map Entry.field))

/-- More depth does no harm. -/
theorem Tells.mono {depth more : Nat} {words : List Token} {d : Document}
    (tells : Tells depth words d) (le : depth ≤ more) : Tells more words d := by
  induction tells generalizing more with
  | null => exact .null
  | bool => exact .bool
  | number => exact .number
  | string => exact .string
  | array _ ih =>
    cases more with
    | zero => cases le
    | succ more => exact .array fun item member => ih item member (Nat.le_of_succ_le_succ le)
  | object _ ih =>
    cases more with
    | zero => cases le
    | succ more => exact .object fun entry member => ih entry member (Nat.le_of_succ_le_succ le)

/-- A text holds a document. -/
def Holds (text : List Char) (d : Document) : Prop :=
  ∃ tokens, Words text tokens ∧ Tells maxDepth tokens d

/-! ## Groups of words -/

theorem separated_singleton (group : List Token) : separated [group] = group :=
  List.intercalate_singleton

theorem separated_cons_cons (group next : List Token) (groups : List (List Token)) :
    separated (group :: next :: groups) = group ++ .comma :: separated (next :: groups) := by
  rw [separated, List.intercalate_cons_cons, List.append_assoc]
  rfl

theorem exists_separated_cons (group : List Token) (groups : List (List Token)) :
    ∃ behind, separated (group :: groups) = group ++ behind := by
  cases groups with
  | nil => exact ⟨[], by rw [separated_singleton, List.append_nil]⟩
  | cons next groups => exact ⟨_, separated_cons_cons group next groups⟩

namespace Reader

variable {layers : List Layer} {last : Document}

/-- Gives a document to the array or object that waits for it. -/
def give (d : Document) : List Layer → Reader
  | [] => .done d
  | layers => supply d.toValue layers

theorem supply_eq_give (v : Value) (layers : List Layer) :
    supply v layers = give (.plain v) layers := by
  cases layers <;> rfl

theorem closeObject_eq_give (before : List Field) (layers : List Layer) :
    closeObject before layers = give (.object before.reverse) layers := by
  cases layers <;> rfl

theorem run_cons {reader next : Reader} {token : Token} (step : reader.step token = some next)
    (tokens : List Token) : reader.run (token :: tokens) = next.run tokens := by
  rw [run, step]

end Reader

open Reader

/-! ## What is told is read -/

/-- A reader at this place takes the words as the document, whatever follows. -/
def Takes (layers : List Layer) (words : List Token) (d : Document) : Prop :=
  ∀ more, (Reader.value layers).run (words ++ more) = (give d layers).run more

theorem run_items {layers : List Layer} {item : Item} {items : List Item} (before : List Value)
    (each : ∀ part ∈ item :: items, ∀ before,
      Takes (.items before :: layers) part.words part.document) (more : List Token) :
    (Reader.value (.items before :: layers)).run
        (separated ((item :: items).map (·.words)) ++ .rightBracket :: more) =
      (supply (.array (before.reverse ++ (item :: items).map (·.document.toValue))) layers).run
        more := by
  induction items generalizing item before with
  | nil =>
    have first := each item (by simp) before (.rightBracket :: more)
    simp only [List.map_cons, List.map_nil, separated_singleton]
    rw [first, ← List.reverse_cons]
    rfl
  | cons next items ih =>
    have first := each item (by simp) before
      (.comma :: (separated ((next :: items).map (·.words)) ++ .rightBracket :: more))
    have others := ih (item.document.toValue :: before) fun part member =>
      each part (List.mem_cons_of_mem _ member)
    simp only [List.map_cons, separated_cons_cons] at others first ⊢
    rw [List.append_assoc, List.cons_append, first]
    simp only [List.reverse_cons, List.append_assoc, List.singleton_append] at others
    exact others

theorem run_entries {layers : List Layer} {entry : Entry} {entries : List Entry}
    (before : List Field)
    (each : ∀ part ∈ entry :: entries, ∀ before,
      Takes (.entries before part.name :: layers) part.words part.document) (more : List Token) :
    (Reader.nextName layers before).run
        (separated ((entry :: entries).map Entry.tokens) ++ .rightBrace :: more) =
      (give (.object (before.reverse ++ (entry :: entries).map Entry.field)) layers).run more := by
  have named (entry : Entry) (before : List Field) (tokens : List Token) :
      (Reader.nextName layers before).run (entry.tokens ++ tokens) =
        (Reader.value (.entries before entry.name :: layers)).run (entry.words ++ tokens) := by
    have same : String.ofList entry.name.toList = entry.name := String.ofList_toList
    simp only [Entry.tokens, List.cons_append, run, step, same]
  induction entries generalizing entry before with
  | nil =>
    have first := each entry (by simp) before (.rightBrace :: more)
    simp only [List.map_cons, List.map_nil, separated_singleton]
    rw [named, first, ← List.reverse_cons, ← closeObject_eq_give]
    rfl
  | cons next entries ih =>
    have first := each entry (by simp) before
      (.comma :: (separated ((next :: entries).map Entry.tokens) ++ .rightBrace :: more))
    have others := ih (entry.field :: before) fun part member =>
      each part (List.mem_cons_of_mem _ member)
    simp only [List.map_cons, separated_cons_cons] at others first ⊢
    rw [List.append_assoc, List.cons_append, named, first]
    simp only [List.reverse_cons, List.append_assoc, List.singleton_append] at others
    exact others

/-- No value begins with the end of an array. -/
theorem Tells.run_firstItem {depth : Nat} {words : List Token} {d : Document}
    (tells : Tells depth words d) (layers : List Layer) (more : List Token) :
    (Reader.firstItem layers).run (words ++ more) =
      (Reader.value (.items [] :: layers)).run (words ++ more) := by
  cases tells <;> rfl

/-- The words of a document are taken as this document, if there is room for what is nested in
it. -/
theorem Tells.takes {depth : Nat} {words : List Token} {d : Document}
    (tells : Tells depth words d) (layers : List Layer) (room : layers.length + depth ≤ maxDepth) :
    Takes layers words d := by
  induction tells generalizing layers with
  | null => exact fun _ => by rw [← supply_eq_give]; rfl
  | bool => exact fun _ => by rw [← supply_eq_give]; rfl
  | number => exact fun _ => by rw [← supply_eq_give]; rfl
  | @string _ s =>
    intro more
    have same : String.ofList s.toList = s := String.ofList_toList
    rw [← supply_eq_give, List.singleton_append, Reader.run, Reader.step, Reader.start, same]
  | @array depth items each ih =>
    intro more
    have open? : layers.length < maxDepth := by omega
    have opened : (Reader.value layers).step .leftBracket = some (.firstItem layers) := by
      rw [step, start, if_pos open?]
    rw [List.cons_append, run_cons opened, List.append_assoc, List.singleton_append,
      ← supply_eq_give]
    cases items with
    | nil => rfl
    | cons item items =>
      have inside := run_items [] (fun part member before => ih part member
        (.items before :: layers) (by rw [List.length_cons]; omega)) more
      rw [List.reverse_nil, List.nil_append] at inside
      obtain ⟨behind, shape⟩ := exists_separated_cons item.words (items.map (·.words))
      rw [← inside, List.map_cons, shape, List.append_assoc]
      exact (each item List.mem_cons_self).run_firstItem layers _
  | @object depth entries each ih =>
    intro more
    have open? : layers.length < maxDepth := by omega
    have opened : (Reader.value layers).step .leftBrace = some (.firstName layers) := by
      rw [step, start, if_pos open?]
    rw [List.cons_append, run_cons opened, List.append_assoc, List.singleton_append]
    cases entries with
    | nil => exact congrArg (run · more) (closeObject_eq_give [] layers)
    | cons entry entries =>
      have inside := run_entries [] (fun part member before => ih part member
        (.entries before part.name :: layers) (by rw [List.length_cons]; omega)) more
      rw [List.reverse_nil, List.nil_append] at inside
      obtain ⟨behind, shape⟩ := exists_separated_cons entry.tokens (entries.map Entry.tokens)
      rw [← inside, List.map_cons, shape, List.append_assoc]
      rfl

/-! ## What is read is told -/

section Steps

variable {layers : List Layer} {tokens : List Token} {last : Document}

theorem firstItem_cases (run : (Reader.firstItem layers).run tokens = some (.done last)) :
    (∃ rest, tokens = .rightBracket :: rest ∧
      (supply (.array []) layers).run rest = some (.done last)) ∨
    (Reader.value (.items [] :: layers)).run tokens = some (.done last) := by
  cases tokens with
  | nil => cases run
  | cons token rest =>
    cases token with
    | rightBracket => exact .inl ⟨rest, rfl, run⟩
    | _ => exact .inr run

theorem itemEnd_cases {before : List Value}
    (run : (Reader.itemEnd layers before).run tokens = some (.done last)) :
    (∃ rest, tokens = .comma :: rest ∧
      (Reader.value (.items before :: layers)).run rest = some (.done last)) ∨
    ∃ rest, tokens = .rightBracket :: rest ∧
      (supply (.array before.reverse) layers).run rest = some (.done last) := by
  cases tokens with
  | nil => cases run
  | cons token rest =>
    cases token with
    | comma => exact .inl ⟨rest, rfl, run⟩
    | rightBracket => exact .inr ⟨rest, rfl, run⟩
    | _ => cases run

theorem nextName_cases {before : List Field}
    (run : (Reader.nextName layers before).run tokens = some (.done last)) :
    ∃ name rest, tokens = .string (String.toList name) :: .colon :: rest ∧
      (Reader.value (.entries before name :: layers)).run rest = some (.done last) := by
  cases tokens with
  | nil => cases run
  | cons token rest =>
    cases token with
    | string s =>
      cases rest with
      | nil => cases run
      | cons mark rest =>
        cases mark with
        | colon => exact ⟨String.ofList s, rest, by rw [String.toList_ofList], run⟩
        | _ => cases run
    | _ => cases run

theorem firstName_cases (run : (Reader.firstName layers).run tokens = some (.done last)) :
    (∃ rest, tokens = .rightBrace :: rest ∧
      (closeObject [] layers).run rest = some (.done last)) ∨
    (Reader.nextName layers []).run tokens = some (.done last) := by
  cases tokens with
  | nil => cases run
  | cons token rest =>
    cases token with
    | rightBrace => exact .inl ⟨rest, rfl, run⟩
    | string s => exact .inr run
    | _ => cases run

theorem fieldEnd_cases {before : List Field}
    (run : (Reader.fieldEnd layers before).run tokens = some (.done last)) :
    (∃ rest, tokens = .comma :: rest ∧
      (Reader.nextName layers before).run rest = some (.done last)) ∨
    ∃ rest, tokens = .rightBrace :: rest ∧
      (closeObject before layers).run rest = some (.done last) := by
  cases tokens with
  | nil => cases run
  | cons token rest =>
    cases token with
    | comma => exact .inl ⟨rest, rfl, run⟩
    | rightBrace => exact .inr ⟨rest, rfl, run⟩
    | _ => cases run

end Steps

/-- The words begin with those of a document, and a reader that comes to its end here has taken
them as this document. -/
def BeginsTold (depth : Nat) (layers : List Layer) (last : Document) (words : List Token) : Prop :=
  ∃ front d rest, words = front ++ rest ∧ Tells depth front d ∧
    (give d layers).run rest = some (.done last)

theorem items_of_run {depth : Nat} {layers : List Layer} {last : Document} {bound : Nat}
    (each : ∀ tokens : List Token, tokens.length < bound → ∀ before,
      (Reader.value (.items before :: layers)).run tokens = some (.done last) →
      BeginsTold depth (.items before :: layers) last tokens)
    (tokens : List Token) (within : tokens.length < bound) (before : List Value)
    (run : (Reader.value (.items before :: layers)).run tokens = some (.done last)) :
    ∃ (item : Item) (items : List Item) (rest : List Token),
      tokens = separated ((item :: items).map (·.words)) ++ .rightBracket :: rest ∧
      (∀ part ∈ item :: items, Tells depth part.words part.document) ∧
      (supply (.array (before.reverse ++ (item :: items).map (·.document.toValue))) layers).run
        rest = some (.done last) := by
  obtain ⟨front, d, behind, rfl, tells, taken⟩ := each tokens within before run
  rw [List.length_append] at within
  rcases itemEnd_cases taken with ⟨behind, rfl, next⟩ | ⟨rest, rfl, closed⟩
  · rw [List.length_cons] at within
    obtain ⟨item, items, rest, rfl, others, closed⟩ := items_of_run each behind (by omega) _ next
    refine ⟨⟨front, d⟩, item :: items, rest, ?_, List.forall_mem_cons.2 ⟨tells, others⟩, ?_⟩
    · simp only [List.map_cons, separated_cons_cons, List.append_assoc, List.cons_append]
    · simpa using closed
  · refine ⟨⟨front, d⟩, [], rest, ?_, List.forall_mem_cons.2 ⟨tells, nofun⟩, ?_⟩
    · simp only [List.map_cons, List.map_nil, separated_singleton]
    · simpa using closed
termination_by tokens.length

theorem entries_of_run {depth : Nat} {layers : List Layer} {last : Document} {bound : Nat}
    (each : ∀ tokens : List Token, tokens.length < bound → ∀ before name,
      (Reader.value (.entries before name :: layers)).run tokens = some (.done last) →
      BeginsTold depth (.entries before name :: layers) last tokens)
    (tokens : List Token) (within : tokens.length < bound) (before : List Field)
    (run : (Reader.nextName layers before).run tokens = some (.done last)) :
    ∃ (entry : Entry) (entries : List Entry) (rest : List Token),
      tokens = separated ((entry :: entries).map Entry.tokens) ++ .rightBrace :: rest ∧
      (∀ part ∈ entry :: entries, Tells depth part.words part.document) ∧
      (give (.object (before.reverse ++ (entry :: entries).map Entry.field)) layers).run rest =
        some (.done last) := by
  obtain ⟨name, value, rfl, named⟩ := nextName_cases run
  rw [List.length_cons, List.length_cons] at within
  obtain ⟨front, d, behind, rfl, tells, taken⟩ := each value (by omega) before name named
  rw [List.length_append] at within
  rcases fieldEnd_cases taken with ⟨behind, rfl, next⟩ | ⟨rest, rfl, closed⟩
  · rw [List.length_cons] at within
    obtain ⟨entry, entries, rest, rfl, others, closed⟩ :=
      entries_of_run each behind (by omega) _ next
    refine ⟨⟨⟨front, d⟩, name⟩, entry :: entries, rest, ?_,
      List.forall_mem_cons.2 ⟨tells, others⟩, ?_⟩
    · simp only [List.map_cons, separated_cons_cons, Entry.tokens, List.append_assoc,
        List.cons_append]
    · simpa [Entry.field] using closed
  · refine ⟨⟨⟨front, d⟩, name⟩, [], rest, ?_, List.forall_mem_cons.2 ⟨tells, nofun⟩, ?_⟩
    · simp only [List.map_cons, List.map_nil, separated_singleton, Entry.tokens, List.cons_append]
    · rw [closeObject_eq_give] at closed
      simpa [Entry.field] using closed
termination_by tokens.length

/-- A reader that comes to the end of a text has taken the words of a document for each value. -/
theorem tells_of_run {layers : List Layer} {last : Document} (tokens : List Token)
    (run : (Reader.value layers).run tokens = some (.done last)) :
    BeginsTold (maxDepth - layers.length) layers last tokens := by
  cases tokens with
  | nil => cases run
  | cons token tokens =>
    have inside (layer : Layer) (inner : List Token) (shorter : inner.length < tokens.length + 1)
        (run : (Reader.value (layer :: layers)).run inner = some (.done last)) :
        BeginsTold (maxDepth - (layers.length + 1)) (layer :: layers) last inner :=
      tells_of_run inner run
    cases token with
    | null => exact ⟨[.null], _, tokens, rfl, .null, by rwa [← supply_eq_give]⟩
    | bool b => exact ⟨[.bool b], _, tokens, rfl, .bool, by rwa [← supply_eq_give]⟩
    | number n => exact ⟨[.number n], _, tokens, rfl, .number, by rwa [← supply_eq_give]⟩
    | string s =>
      have tells : Tells (maxDepth - layers.length) [.string (String.ofList s).toList]
          (.plain (.string (String.ofList s))) := .string
      rw [String.toList_ofList] at tells
      exact ⟨_, _, tokens, rfl, tells, by rwa [← supply_eq_give]⟩
    | leftBracket =>
      by_cases deeper : layers.length < maxDepth
      · rw [run_cons (by rw [step, start, if_pos deeper])] at run
        rw [show maxDepth - layers.length = maxDepth - (layers.length + 1) + 1 by omega]
        rcases firstItem_cases run with ⟨rest, rfl, closed⟩ | items
        · have empty : Tells (maxDepth - (layers.length + 1) + 1) [.leftBracket, .rightBracket]
              (.plain (.array [])) := @Tells.array _ [] nofun
          exact ⟨_, _, rest, rfl, empty, by rwa [← supply_eq_give]⟩
        · obtain ⟨item, items, rest, rfl, each, closed⟩ := items_of_run
            (fun inner shorter before => inside (.items before) inner shorter) tokens
            (Nat.lt_succ_self _) [] items
          exact ⟨_, _, rest, by simp, .array each, by rwa [← supply_eq_give]⟩
      · rw [Reader.run, step, start, if_neg deeper] at run
        cases run
    | leftBrace =>
      by_cases deeper : layers.length < maxDepth
      · rw [run_cons (by rw [step, start, if_pos deeper])] at run
        rw [show maxDepth - layers.length = maxDepth - (layers.length + 1) + 1 by omega]
        rcases firstName_cases run with ⟨rest, rfl, closed⟩ | entries
        · have empty : Tells (maxDepth - (layers.length + 1) + 1) [.leftBrace, .rightBrace]
              (.object []) := @Tells.object _ [] nofun
          exact ⟨_, _, rest, rfl, empty, by rwa [closeObject_eq_give] at closed⟩
        · obtain ⟨entry, entries, rest, rfl, each, closed⟩ := entries_of_run
            (fun inner shorter before name => inside (.entries before name) inner shorter) tokens
            (Nat.lt_succ_self _) [] entries
          exact ⟨_, _, rest, by simp, .object each, closed⟩
      · rw [Reader.run, step, start, if_neg deeper] at run
        cases run
    | _ => cases run
termination_by tokens.length

/-- A text is read as a document exactly where it holds it. -/
theorem Document.read?_iff {text : List Char} {d : Document} :
    Document.read? text = some d ↔ Holds text d := by
  constructor
  · intro read
    obtain ⟨tokens, words, read⟩ := Option.bind_eq_some_iff.1 read
    obtain ⟨reader, run, read⟩ := Option.bind_eq_some_iff.1 read
    split at read
    · cases read
      obtain ⟨front, last, rest, rfl, tells, ended⟩ := tells_of_run tokens run
      cases rest with
      | nil =>
        cases ended
        rw [List.append_nil] at words
        exact ⟨front, Token.scan?_iff.1 words, tells⟩
      | cons => cases ended
    · cases read
  · rintro ⟨tokens, words, tells⟩
    have run := tells.takes [] (Nat.le_of_eq (Nat.zero_add _)) []
    rw [List.append_nil] at run
    rw [read?, Token.scan?_iff.2 words, Option.bind_eq_bind, Option.bind_some, run]
    rfl

/-! ## Strings -/

theorem words_nil_iff {text : List Char} : Words text [] ↔ ∀ c ∈ text, isGap c = true := by
  constructor
  · generalize none : ([] : List Token) = tokens
    intro words
    induction words with
    | nil => exact nofun
    | gap gap _ ih => exact List.forall_mem_cons.2 ⟨gap, ih none⟩
    | word => cases none
  · intro gaps
    induction text with
    | nil => exact .nil
    | cons c text ih =>
      obtain ⟨gap, gaps⟩ := List.forall_mem_cons.1 gaps
      exact .gap gap (ih gaps)

/-- A text holds a string: gaps stand around a spelling of it in quotation marks. -/
def HoldsString (text : List Char) (s : String) : Prop :=
  ∃ before body behind, text = before ++ (quote body ++ behind) ∧
    (∀ c ∈ before ++ behind, isGap c = true) ∧ Spells body s.toList

theorem words_string_iff {text : List Char} {s : String} :
    Words text [.string s.toList] ↔ HoldsString text s := by
  constructor
  · generalize same : [Token.string s.toList] = tokens
    intro words
    induction words with
    | nil => cases same
    | @gap c text tokens gap _ ih =>
      obtain ⟨before, body, behind, rfl, gaps, spells⟩ := ih same
      exact ⟨c :: before, body, behind, rfl, List.forall_mem_cons.2 ⟨gap, gaps⟩, spells⟩
    | @word front rest token tokens word ends later =>
      cases same
      generalize same : Token.string s.toList = token at word
      cases word with
      | string spells =>
        cases same
        exact ⟨[], _, rest, rfl, words_nil_iff.1 later, spells⟩
      | mark mark =>
        subst same
        unfold punctuation at mark
        split at mark <;> cases mark
      | named named =>
        subst same
        rcases namedValue_cases named with ⟨-, other⟩ | ⟨-, other⟩ | ⟨-, other⟩ <;> cases other
      | number => cases same
  · rintro ⟨before, body, behind, rfl, gaps, spells⟩
    obtain ⟨gapsBefore, gapsBehind⟩ := List.forall_mem_append.1 gaps
    have string : Words (quote body ++ behind) [.string s.toList] :=
      .word (.string spells) trivial (words_nil_iff.2 gapsBehind)
    induction before with
    | nil => exact string
    | cons c before ih =>
      obtain ⟨gap, others⟩ := List.forall_mem_cons.1 gapsBefore
      exact .gap gap (ih (List.forall_mem_append.2 ⟨others, gapsBehind⟩) others)

/-- A text is read as a string exactly where it holds it and nothing else. -/
theorem readString?_iff {text : List Char} {s : String} :
    readString? text = some s ↔ HoldsString text s := by
  have isString : readString? text = some s ↔ Holds text (.plain (.string s)) := by
    rw [← Document.read?_iff, readString?, Value.read?]
    cases Document.read? text with
    | none => exact iff_of_false nofun nofun
    | some d =>
      cases d with
      | object fields => exact iff_of_false nofun nofun
      | plain v => cases v <;> simp [Document.toValue]
  rw [isString, ← words_string_iff]
  constructor
  · rintro ⟨tokens, words, tells⟩
    cases tells
    exact words
  · exact fun words => ⟨_, words, .string⟩

/-- A JSON string for a text is read as the text. -/
theorem readString?_literal {body text : List Char} (spells : Spells body text) :
    readString? (quote body) = some (String.ofList text) := by
  have spells : Spells body (String.ofList text).toList := by rwa [String.toList_ofList]
  exact readString?_iff.2 ⟨[], body, [], (List.append_nil _).symm, nofun, spells⟩

end Tutor.Json
