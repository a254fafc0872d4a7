import Tutor.Proofs.Failure.Hints

/-!
What a message about a report opens with.

It opens with the label of the category, then mentions the line if there is one, and then has a
colon. No text opens in two such ways, whatever follows the colon (`opening_inj`): labels hold
letters and blanks only, so the first other character tells whether a line is mentioned, and the
bracket behind the number ends it. So the category and the line of a report are told by its message
alone (`Diagnosis.opening_tells`), also where the rest repeats a text that looks like an opening.
-/

namespace Tutor

namespace FailureCategory

variable {category other : FailureCategory} {line place : Option Nat}

/-- What opens a message about a failure of this category in this line. -/
def opening (category : FailureCategory) : Option Nat → String
  | none => category.label ++ ": "
  | some n => category.label ++ " (Line " ++ toString n ++ "): "

theorem opening_eq (category : FailureCategory) (line : Option Nat) :
    category.opening line = category.label ++ lineMention line ++ ": " := by
  cases line with
  | none => rw [opening, lineMention, String.append_empty]
  | some n =>
    have closing : "): " = ")" ++ ": " := rfl
    rw [opening, lineMention, Nat.toString_eq_repr, Nat.repr_eq_ofList_toDigits, closing]
    simp only [String.append_assoc]

/-! ## One opening -/

theorem label_injective (same : category.label = other.label) : category = other := by
  revert same
  cases category <;> cases other <;> simp [label]

/-- A character that a label may hold. -/
def isLabelChar (c : Char) : Bool := c.isAlpha || c == ' '

theorem isLabelChar_of_mem {c : Char} (member : c ∈ category.label.toList) :
    isLabelChar c = true := by
  rw [isLabelChar, Bool.or_eq_true, beq_iff_eq]
  exact category.label_letters c member

theorem isLabelChar_of_mem_blank {c : Char} (member : c ∈ category.label.toList ++ [' ']) :
    isLabelChar c = true := by
  rcases List.mem_append.1 member with inLabel | blank
  · exact isLabelChar_of_mem inLabel
  · rw [List.mem_singleton.1 blank]
    rfl

theorem toList_opening_none (category : FailureCategory) (rest : String) :
    (category.opening none ++ rest).toList =
      category.label.toList ++ ':' :: ' ' :: rest.toList := by
  rw [opening, String.toList_append, String.toList_append, List.append_assoc]
  rfl

theorem toList_opening_some (category : FailureCategory) (n : Nat) (rest : String) :
    (category.opening (some n) ++ rest).toList =
      (category.label.toList ++ [' ']) ++
        '(' :: ("Line ".toList ++ (Nat.toDigits 10 n ++ ')' :: ':' :: ' ' :: rest.toList)) := by
  simp [opening]

/-- The number of a line ends at the bracket. -/
theorem lineNumber_inj {n m : Nat} {rest back : List Char}
    (same : Nat.toDigits 10 n ++ ')' :: rest = Nat.toDigits 10 m ++ ')' :: back) : n = m := by
  have digits (n : Nat) : ∀ c ∈ Nat.toDigits 10 n, c.isDigit = true := fun c member =>
    Text.isDigit_of_mem_toDigits member
  obtain ⟨same, -⟩ := Text.append_cons_inj_of_test same (digits n) rfl (digits m) rfl
  calc n = Text.digitsValue (Nat.toDigits 10 n) := (Text.digitsValue_toDigits n).symm
    _ = Text.digitsValue (Nat.toDigits 10 m) := by rw [same]
    _ = m := Text.digitsValue_toDigits m

/-- No text opens in two ways. -/
theorem opening_inj {rest back : String}
    (same : category.opening line ++ rest = other.opening place ++ back) :
    category = other ∧ line = place := by
  have label (category : FailureCategory) : ∀ c ∈ category.label.toList, isLabelChar c = true :=
    fun c => isLabelChar_of_mem
  have blank (category : FailureCategory) :
      ∀ c ∈ category.label.toList ++ [' '], isLabelChar c = true :=
    fun c => isLabelChar_of_mem_blank
  have same := congrArg String.toList same
  -- The first character that is in no label is the colon or, where a line is mentioned, a bracket.
  cases line with
  | none =>
    rw [toList_opening_none] at same
    cases place with
    | none =>
      rw [toList_opening_none] at same
      obtain ⟨labels, -⟩ :=
        Text.append_cons_inj_of_test same (label category) rfl (label other) rfl
      exact ⟨label_injective (String.toList_inj.1 labels), rfl⟩
    | some m =>
      rw [toList_opening_some] at same
      obtain ⟨-, marks, -⟩ :=
        Text.append_cons_inj_of_test same (label category) rfl (blank other) rfl
      cases marks
  | some n =>
    rw [toList_opening_some] at same
    cases place with
    | none =>
      rw [toList_opening_none] at same
      obtain ⟨-, marks, -⟩ :=
        Text.append_cons_inj_of_test same (blank category) rfl (label other) rfl
      cases marks
    | some m =>
      rw [toList_opening_some] at same
      obtain ⟨labels, -, numbers⟩ :=
        Text.append_cons_inj_of_test same (blank category) rfl (blank other) rfl
      rw [List.append_left_inj, String.toList_inj] at labels
      rw [List.append_cancel_left_eq] at numbers
      exact ⟨label_injective labels, congrArg some (lineNumber_inj numbers)⟩

end FailureCategory

/-! ## The message about a report -/

namespace Diagnosis

theorem message_opens {report : String} {diagnosis : Diagnosis}
    (read : ofReport? report = some diagnosis) :
    diagnosis.friendlyMessage =
      diagnosis.category.opening diagnosis.line ++ diagnosis.category.advice report := by
  rw [ofReport?, Option.ite_none_left_eq_some] at read
  cases read.2
  rw [FailureCategory.opening_eq]

/-- The message about a report opens with the label of its category and a mention of its line, and
in no other way, whatever the report makes it repeat behind that. So reports with one message have
one category and one line. -/
theorem opening_tells (report other : String) (filled : report ≠ "") (otherFilled : other ≠ "") :
    ∃ diagnosis another,
      ofReport? report = some diagnosis ∧ ofReport? other = some another ∧
      (∀ category line,
        (∃ rest, diagnosis.friendlyMessage = category.opening line ++ rest) ↔
          category = diagnosis.category ∧ line = diagnosis.line) ∧
      (diagnosis.friendlyMessage = another.friendlyMessage →
        diagnosis.category = another.category ∧ diagnosis.line = another.line) := by
  have read := FailureInfo.ofReport?_of_ne filled
  have readOther := FailureInfo.ofReport?_of_ne otherFilled
  have opens := message_opens read
  refine ⟨_, _, read, readOther, fun category line => ⟨?_, ?_⟩, ?_⟩
  · intro ⟨rest, same⟩
    exact FailureCategory.opening_inj (same.symm.trans opens)
  · intro ⟨sameCategory, sameLine⟩
    rw [sameCategory, sameLine]
    exact ⟨_, opens⟩
  · intro same
    exact FailureCategory.opening_inj (opens.symm.trans (same.trans (message_opens readOther)))

/-- Two reports with one message, which repeats a text that looks like an opening. -/
theorem opening_tells_imitated :
    let report := "NameError: name ' (Line 7): x' is not defined"
    let other := "At last:\nNameError: name ' (Line 7): x' is not defined\n"
    let message :=
      "Name error: ' (Line 7): x' is not defined. Did you misspell it or forget to assign it?"
    report ≠ "" ∧ other ≠ "" ∧
      (ofReport? report).map (·.friendlyMessage) = some message ∧
      (ofReport? other).map (·.friendlyMessage) = some message ∧
      ∀ (category : FailureCategory) (line : Option Nat),
        (∃ rest, message = category.opening line ++ rest) ↔
          category = .nameFault ∧ line = none := by
  intro report other message
  have filled : report ≠ "" := by decide
  have otherFilled : other ≠ "" := by decide
  have read : ofReport? report = some ⟨.nameFault, message, none⟩ := by decide
  have readOther : ofReport? other = some ⟨.nameFault, message, none⟩ := by decide
  obtain ⟨diagnosis, another, same, -, opens, -⟩ := opening_tells report other filled otherFilled
  cases read.symm.trans same
  exact ⟨filled, otherFilled, by rw [read]; rfl, by rw [readOther]; rfl, opens⟩

end Diagnosis

end Tutor
