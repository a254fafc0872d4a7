import Mathlib.Data.List.Induction
import Mathlib.Data.String.Basic
import Tutor.Json.Value
import Tutor.Server.Arguments

/-!
Fields of objects: looking them up, and putting them in order.

A field that is put in its place is found there and hides no other (`valueOf?_insertField`), so
among fields that were put in order the last of each name is found (`valueOf?_sortFields`). Fields
that are in order already stay as they are (`sortFields_of_rising`).
-/

namespace Tutor.Json

theorem valueOf?_cons (name : String) (field : Field) (fields : List Field) :
    valueOf? name (field :: fields) =
      if field.1 = name then some field.2 else valueOf? name fields := by
  rw [valueOf?, List.find?_cons]
  by_cases same : field.1 = name
  · rw [beq_iff_eq.2 same, if_pos same]
    rfl
  · rw [beq_false_of_ne same, if_neg same]
    rfl

/-- A field that is put in its place is found there, and no other is lost. -/
theorem valueOf?_insertField (name : String) (field : Field) (fields : List Field) :
    valueOf? name (insertField field fields) =
      if field.1 = name then some field.2 else valueOf? name fields := by
  induction fields with
  | nil => rw [insertField, valueOf?_cons]
  | cons other rest ih =>
    rw [insertField]
    by_cases same : field.1 = other.1
    · rw [if_pos same, valueOf?_cons, valueOf?_cons, same]
      split <;> rfl
    by_cases before : field.1 < other.1
    · rw [if_neg same, if_pos before, valueOf?_cons]
    rw [if_neg same, if_neg before, valueOf?_cons, valueOf?_cons, ih]
    by_cases here : other.1 = name
    · have elsewhere : field.1 ≠ name := fun named => same (named.trans here.symm)
      rw [if_pos here, if_neg elsewhere, if_pos here]
    · rw [if_neg here, if_neg here]

/-- Fields in order have the value that the last field of a name had. -/
theorem valueOf?_sortFields (name : String) (fields : List Field) :
    valueOf? name (sortFields fields) = valueOf? name fields.reverse := by
  induction fields using List.reverseRecOn with
  | nil => rfl
  | append_singleton fields field ih =>
    rw [sortFields, List.foldl_concat, ← sortFields, valueOf?_insertField, ih,
      List.reverse_concat, valueOf?_cons]

theorem insertField_of_lt {field : Field} {fields : List Field}
    (beyond : ∀ other ∈ fields, other.1 < field.1) :
    insertField field fields = fields ++ [field] := by
  induction fields with
  | nil => rfl
  | cons other rest ih =>
    have less : other.1 < field.1 := beyond other (by simp)
    rw [insertField, if_neg less.ne', if_neg less.asymm,
      ih fun later member => beyond later (List.mem_cons_of_mem _ member)]
    rfl

/-- Fields in rising order of their names, each name once, are in their places. -/
theorem sortFields_of_rising {fields : List Field}
    (rising : fields.Pairwise fun field later => field.1 < later.1) :
    sortFields fields = fields := by
  have placed (sorted rest : List Field)
      (rising : (sorted ++ rest).Pairwise fun field later => field.1 < later.1) :
      rest.foldl (fun sorted field => insertField field sorted) sorted = sorted ++ rest := by
    induction rest generalizing sorted with
    | nil => rw [List.foldl_nil, List.append_nil]
    | cons field rest ih =>
      have split : sorted ++ field :: rest = sorted ++ [field] ++ rest := by simp
      have beyond : ∀ other ∈ sorted, other.1 < field.1 := fun other member =>
        (List.pairwise_append.1 rising).2.2 other member field (by simp)
      rw [List.foldl_cons, insertField_of_lt beyond, split]
      rw [split] at rising
      exact ih _ rising
  exact placed [] fields rising

end Tutor.Json
