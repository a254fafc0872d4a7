import Tutor.Text.Find

/-!
Whether a text occurs in another, and splitting a text around a mark.

A text that lacks some character occurs on one side of it or on the other. A text is split around
the leftmost mark (`splitAround_eq_some_iff`), which is easy to find where its first character is
found nowhere else.
-/

namespace Tutor.Text

variable {first : Char} {mark before text rest : List Char}

/-- The test for an occurrence is exact. -/
theorem occursIn_iff {mark text : List Char} : occursIn mark text = true ↔ mark <:+: text := by
  induction text with
  | nil => rw [occursIn, List.isEmpty_iff, List.infix_nil]
  | cons c text ih =>
    rw [occursIn, Bool.or_eq_true, List.isPrefixOf_iff_prefix, ih, List.infix_cons_iff]

/-- A text without this character stands on one side of it. -/
theorem infix_around_iff {c : Char} {before behind : List Char} (clean : c ∉ mark) :
    mark <:+: before ++ c :: behind ↔ mark <:+: before ∨ mark <:+: behind := by
  constructor
  · intro holds
    rcases List.infix_append_iff.1 holds with left | right | ⟨front, back, rfl, ends, starts⟩
    · exact .inl left
    · rcases List.infix_cons_iff.1 right with starts | later
      · rcases List.prefix_cons_iff.1 starts with rfl | ⟨rest, rfl, -⟩
        · exact .inl (List.nil_infix)
        · exact absurd List.mem_cons_self clean
      · exact .inr later
    · rcases List.prefix_cons_iff.1 starts with rfl | ⟨rest, rfl, -⟩
      · rw [List.append_nil]
        exact .inl ends.isInfix
      · exact absurd (List.mem_append_right front List.mem_cons_self) clean
  · rintro (left | right)
    · exact left.trans (List.prefix_append before (c :: behind)).isInfix
    · exact right.trans ((List.suffix_cons c behind).trans (List.suffix_append before _)).isInfix

theorem dropLead_append (lead rest : List Char) : dropLead lead (lead ++ rest) = some rest := by
  simp [dropLead]

theorem dropLead_of_ne {c : Char} (differs : first ≠ c) :
    dropLead (first :: mark) (c :: text) = none := by
  simp [dropLead, differs]

/-- A text in which the mark does not occur is not split. -/
theorem splitAround_of_not_infix (absent : ¬ mark <:+: text) (before : List Char) :
    splitAround mark before text = none := by
  induction text generalizing before with
  | nil =>
    rw [List.infix_nil, ← List.isEmpty_iff] at absent
    rw [splitAround, if_neg absent]
  | cons c text ih =>
    rw [List.infix_cons_iff, not_or, ← List.isPrefixOf_iff_prefix] at absent
    rw [splitAround, dropLead, if_neg absent.1]
    exact ih absent.2 (c :: before)

/-- A text without the first character of the mark is passed over. -/
theorem splitAround_append {passed : List Char} (clean : first ∉ passed) (before : List Char) :
    splitAround (first :: mark) before (passed ++ text) =
      splitAround (first :: mark) (passed.reverse ++ before) text := by
  induction passed generalizing before with
  | nil => rfl
  | cons c passed ih =>
    simp only [List.mem_cons, not_or] at clean
    rw [List.cons_append, splitAround, dropLead_of_ne clean.1]
    simp only [ih clean.2, List.reverse_cons, List.append_assoc, List.singleton_append]

theorem splitAround_of_not_mem (clean : first ∉ text) (before : List Char) :
    splitAround (first :: mark) before text = none := by
  have passed : splitAround (first :: mark) before (text ++ []) = _ :=
    splitAround_append clean before
  rw [List.append_nil] at passed
  rw [passed]
  rfl

/-- A text behind a first character that does not begin the mark is searched further. -/
theorem splitAround_other (clean : first ∉ text)
    (differs : dropLead (first :: mark) (first :: rest) = none) (before : List Char) :
    splitAround (first :: mark) before (text ++ first :: rest) =
      splitAround (first :: mark) (first :: (text.reverse ++ before)) rest := by
  rw [splitAround_append clean, splitAround, differs]

/-- The leftmost mark is the one behind a text without its first character. -/
theorem splitAround_mark (clean : first ∉ text) :
    splitAround (first :: mark) [] (text ++ first :: (mark ++ rest)) = some (text, rest) := by
  rw [splitAround_append clean, splitAround, ← List.cons_append, dropLead_append]
  simp

/-! ## The leftmost mark -/

/-- What stands before and behind the leftmost occurrence of a mark. -/
structure FirstMark (mark text before behind : List Char) : Prop where
  split : text = before ++ (mark ++ behind)
  first : ∀ front back, text = front ++ (mark ++ back) → before.length ≤ front.length

theorem dropLead_eq_some_iff {lead text rest : List Char} :
    dropLead lead text = some rest ↔ text = lead ++ rest := by
  constructor
  · intro dropped
    unfold dropLead at dropped
    split at dropped
    · rename_i starts
      obtain ⟨behind, rfl⟩ := List.isPrefixOf_iff_prefix.1 starts
      cases dropped
      rw [List.drop_left]
    · cases dropped
  · rintro rfl
    exact dropLead_append lead rest

theorem FirstMark.cons_iff {c : Char} {text before behind : List Char}
    (absent : dropLead mark (c :: text) = none) :
    FirstMark mark (c :: text) before behind ↔
      ∃ inner, before = c :: inner ∧ FirstMark mark text inner behind := by
  have noStart (back : List Char) : c :: text ≠ mark ++ back := fun starts => by
    cases absent.symm.trans (dropLead_eq_some_iff.2 starts)
  constructor
  · rintro ⟨split, least⟩
    cases before with
    | nil => exact absurd split (noStart behind)
    | cons d inner =>
      rw [List.cons_append, List.cons_eq_cons] at split
      obtain ⟨rfl, split⟩ := split
      refine ⟨inner, rfl, split, fun front back other => ?_⟩
      have le := least (c :: front) back (by rw [List.cons_append, other])
      simpa using le
  · rintro ⟨inner, rfl, split, least⟩
    refine ⟨by rw [List.cons_append, split], fun front back other => ?_⟩
    cases front with
    | nil => exact absurd other (noStart back)
    | cons d front =>
      rw [List.cons_append, List.cons_eq_cons] at other
      have le := least front back other.2
      simpa using le

theorem splitAround_passed_iff {passed behind : List Char} :
    splitAround mark passed text = some (before, behind) ↔
      ∃ inner, before = passed.reverse ++ inner ∧ FirstMark mark text inner behind := by
  induction text generalizing passed with
  | nil =>
    rw [splitAround]
    split
    · rename_i empty
      rw [List.isEmpty_iff] at empty
      subst empty
      constructor
      · rintro ⟨⟩
        exact ⟨[], by simp, rfl, fun _ _ _ => Nat.zero_le _⟩
      · rintro ⟨inner, rfl, split, -⟩
        obtain ⟨rfl, rfl⟩ := List.append_eq_nil_iff.1 split.symm
        simp
    · rename_i some
      refine iff_of_false nofun ?_
      rintro ⟨inner, -, split, -⟩
      have none := (List.append_eq_nil_iff.1 (List.append_eq_nil_iff.1 split.symm).2).1
      exact some (by rw [none]; rfl)
  | cons c text ih =>
    rw [splitAround]
    split
    · rename_i rest found
      have starts := dropLead_eq_some_iff.1 found
      constructor
      · rintro ⟨⟩
        exact ⟨[], by simp, starts, fun _ _ _ => Nat.zero_le _⟩
      · rintro ⟨inner, rfl, split, least⟩
        obtain rfl : inner = [] := by simpa using least [] rest starts
        rw [List.nil_append, starts] at split
        rw [List.append_cancel_left split, List.append_nil]
    · rename_i absent
      rw [ih]
      simp only [FirstMark.cons_iff absent]
      constructor
      · rintro ⟨inner, rfl, first⟩
        exact ⟨c :: inner, by simp, inner, rfl, first⟩
      · rintro ⟨_, rfl, inner, rfl, first⟩
        exact ⟨inner, by simp, first⟩

/-- A text is split around the leftmost mark. -/
theorem splitAround_eq_some_iff {behind : List Char} :
    splitAround mark [] text = some (before, behind) ↔ FirstMark mark text before behind := by
  rw [splitAround_passed_iff]
  constructor
  · rintro ⟨inner, rfl, first⟩
    exact first
  · exact fun first => ⟨before, rfl, first⟩

/-- A text is not split exactly where the mark does not occur in it. -/
theorem splitAround_eq_none_iff {passed : List Char} :
    splitAround mark passed text = none ↔ ¬ mark <:+: text := by
  refine ⟨fun absent occurs => ?_, fun absent => splitAround_of_not_infix absent passed⟩
  induction text generalizing passed with
  | nil =>
    rw [splitAround, if_pos (by rw [List.infix_nil.1 occurs]; rfl)] at absent
    cases absent
  | cons c text ih =>
    rw [splitAround] at absent
    split at absent
    · cases absent
    · rename_i noStart
      rcases List.infix_cons_iff.1 occurs with ⟨back, starts⟩ | later
      · cases noStart.symm.trans (dropLead_eq_some_iff.2 starts.symm)
      · exact ih absent later

end Tutor.Text
