import Tutor.Json.Printer
import Tutor.Json.Reader
import Tutor.Proofs.Json.Fields
import Tutor.Proofs.Json.Grammar
import Tutor.Proofs.Json.Scan

/-!
Reading back JSON that was written.

A value is canonical if its numbers are whole numbers of a 64-bit word and its objects keep their
fields in order; what is written of a canonical value tells it (`Value.Canonical.tells`). So does
what is written of an object for a whole text, whose fields stay in the order in which they were
written (`Document.read?_renderFields`).
-/

namespace Tutor.Json

/-! ## Canonical values -/

/-- A value whose text gives it back. -/
inductive Value.Canonical : Value → Prop
  | null : Canonical .null
  | bool (b : Bool) : Canonical (.bool b)
  | number {n : Number} : n.IsWord → Canonical (.number n)
  | string (s : String) : Canonical (.string s)
  | array {items : List Value} : (∀ item ∈ items, Canonical item) → Canonical (.array items)
  | object {fields : List Field} : fields.Pairwise (fun field later => field.1 < later.1) →
    (∀ field ∈ fields, Canonical field.2) → Canonical (.object fields)

mutual

/-- How deep arrays and objects are nested in a value. -/
def Value.depth : Value → Nat
  | .array items => itemsDepth items + 1
  | .object fields => fieldsDepth fields + 1
  | _ => 0

/-- How deep arrays and objects are nested in the items of an array. -/
def itemsDepth : List Value → Nat
  | [] => 0
  | item :: rest => max item.depth (itemsDepth rest)

/-- How deep arrays and objects are nested in the fields of an object. -/
def fieldsDepth : List (String × Value) → Nat
  | [] => 0
  | (_, value) :: rest => max value.depth (fieldsDepth rest)

end

theorem depth_le_itemsDepth {item : Value} {items : List Value} (member : item ∈ items) :
    item.depth ≤ itemsDepth items := by
  induction items with
  | nil => cases member
  | cons first rest ih =>
    rw [itemsDepth]
    rcases List.mem_cons.1 member with rfl | member
    · exact Nat.le_max_left _ _
    · exact Nat.le_trans (ih member) (Nat.le_max_right _ _)

theorem depth_le_fieldsDepth {field : Field} {fields : List Field} (member : field ∈ fields) :
    field.2.depth ≤ fieldsDepth fields := by
  induction fields with
  | nil => cases member
  | cons first rest ih =>
    rw [fieldsDepth]
    rcases List.mem_cons.1 member with rfl | member
    · exact Nat.le_max_left _ _
    · exact Nat.le_trans (ih member) (Nat.le_max_right _ _)

/-! ## Words -/

theorem itemTokens_eq (items : List Value) :
    itemTokens items = separated (items.map Value.tokens) := by
  induction items with
  | nil => rfl
  | cons item rest ih =>
    cases rest with
    | nil => exact (separated_singleton item.tokens).symm
    | cons next rest =>
      rw [itemTokens, ih]
      · exact (separated_cons_cons item.tokens _ _).symm
      · exact nofun

/-- The words of a field. -/
def namedTokens (field : Field) : List Token := .string field.1.toList :: .colon :: field.2.tokens

theorem fieldTokens_eq (fields : List Field) :
    fieldTokens fields = separated (fields.map namedTokens) := by
  induction fields with
  | nil => rfl
  | cons field rest ih =>
    cases rest with
    | nil => exact (separated_singleton (namedTokens field)).symm
    | cons next rest =>
      rw [fieldTokens, ih]
      · exact (separated_cons_cons (namedTokens field) _ _).symm
      · exact nofun

theorem written_separated {groups : List (List Token)} (each : ∀ group ∈ groups, Written group) :
    Written (separated groups) := by
  induction groups with
  | nil => exact .nil
  | cons group rest ih =>
    obtain ⟨first, others⟩ := List.forall_mem_cons.1 each
    cases rest with
    | nil =>
      rw [separated_singleton]
      exact first
    | cons next rest =>
      rw [separated_cons_cons]
      exact first.glue rfl (ih others)

theorem written_array {items : List Value} (each : ∀ item ∈ items, Written item.tokens) :
    Written (Value.array items).tokens := by
  rw [Value.tokens, itemTokens_eq]
  refine Written.nil.glue rfl ((written_separated ?_).glue rfl .nil)
  exact List.forall_mem_map.2 each

theorem written_object {fields : List Field} (each : ∀ field ∈ fields, Written field.2.tokens) :
    Written (Value.object fields).tokens := by
  rw [Value.tokens, fieldTokens_eq]
  refine Written.nil.glue rfl ((written_separated ?_).glue rfl .nil)
  exact List.forall_mem_map.2 fun field member =>
    Written.nil.glue rfl (Written.nil.glue rfl (each field member))

theorem Value.Canonical.written {v : Value} (canonical : v.Canonical) : Written v.tokens := by
  induction canonical with
  | null => exact .single trivial
  | bool b => exact .single trivial
  | number word => exact .single word
  | string s => exact .single trivial
  | array _ ih => exact written_array ih
  | object _ _ ih => exact written_object ih

/-! ## What words tell -/

/-- A value as a document. -/
def Value.document : Value → Document
  | .object fields => .object fields
  | v => .plain v

theorem Value.Canonical.toValue_document {v : Value} (canonical : v.Canonical) :
    v.document.toValue = v := by
  cases canonical with
  | object rising => exact congrArg Value.object (sortFields_of_rising rising)
  | _ => rfl

theorem tells_array {items : List Value} (canonical : ∀ item ∈ items, item.Canonical)
    (each : ∀ item ∈ items, Tells item.depth item.tokens item.document) :
    Tells (Value.array items).depth (Value.array items).tokens (.plain (.array items)) := by
  have parts : ∀ part ∈ items.map fun item => (⟨item.tokens, item.document⟩ : Item),
      Tells (itemsDepth items) part.words part.document :=
    List.forall_mem_map.2 fun item member => (each item member).mono (depth_le_itemsDepth member)
  have tells := Tells.array parts
  have values : items.map (fun item => item.document.toValue) = items :=
    (List.map_congr_left fun item member => (canonical item member).toValue_document).trans
      (List.map_id items)
  simp only [List.map_map, Function.comp_def, values] at tells
  rw [Value.tokens, itemTokens_eq]
  exact tells

theorem tells_object {fields : List Field} (canonical : ∀ field ∈ fields, field.2.Canonical)
    (each : ∀ field ∈ fields, Tells field.2.depth field.2.tokens field.2.document) :
    Tells (Value.object fields).depth (Value.object fields).tokens (.object fields) := by
  have parts : ∀ part ∈ fields.map fun field =>
        (⟨⟨field.2.tokens, field.2.document⟩, field.1⟩ : Entry),
      Tells (fieldsDepth fields) part.words part.document :=
    List.forall_mem_map.2 fun field member => (each field member).mono (depth_le_fieldsDepth member)
  have tells := Tells.object parts
  have values : fields.map (fun field => (field.1, field.2.document.toValue)) = fields :=
    (List.map_congr_left fun field member =>
      congrArg (field.1, ·) (canonical field member).toValue_document).trans (List.map_id fields)
  simp only [List.map_map, Function.comp_def, Entry.tokens, Entry.field, values] at tells
  rw [Value.tokens, fieldTokens_eq]
  exact tells

/-- What is written of a canonical value tells it. -/
theorem Value.Canonical.tells {v : Value} (canonical : v.Canonical) :
    Tells v.depth v.tokens v.document := by
  induction canonical with
  | null => exact .null
  | bool b => exact .bool
  | number word => exact .number
  | string s => exact .string
  | array canonical ih => exact tells_array canonical ih
  | object _ canonical ih => exact tells_object canonical ih

/-- The object of a text that was written is read back with its fields in the order in which they
were written. -/
theorem Document.read?_renderFields {fields : List Field}
    (each : ∀ field ∈ fields, field.2.Canonical) (room : (Value.object fields).depth ≤ maxDepth) :
    Document.read? (renderFields fields) = some (.object fields) := by
  have written : Written (Value.object fields).tokens :=
    written_object fun field member => (each field member).written
  have tells : Tells (Value.object fields).depth (Value.object fields).tokens (.object fields) :=
    tells_object each fun field member => (each field member).tells
  exact Document.read?_iff.2 ⟨_, written.words, tells.mono room⟩

end Tutor.Json
