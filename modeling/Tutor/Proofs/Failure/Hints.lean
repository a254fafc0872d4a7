import Mathlib.Data.List.Flatten
import Mathlib.Data.List.Infix
import Tutor.Proofs.Failure.Category
import Tutor.Proofs.Text.Blank
import Tutor.Proofs.Text.Find

/-!
Which suggestions a failure of a program gets.

They are chosen by the labels that the friendly message holds. Every message holds the label of its
category; `FailureCategory.label_infix_message_iff` says that it holds another label only within the
text that it repeats from the report. So a failure gets the suggestions of its category, and beyond
these only the ones that the repeated text asks for (`FailureInfo.hints_of_quoted`).
-/

namespace Tutor

namespace FailureCategory

/-! ## Labels -/

/-- The categories that have suggestions of their own, in the order of the table. -/
def advised : List FailureCategory :=
  [.syntaxFault, .nameFault, .indentationFault, .typeFault, .indexFault]

/-- The suggestions of a category. -/
def suggestions (category : FailureCategory) : List String :=
  (hintTable.lookup category.label).getD []

/-- The text of a report that the message of this category repeats: the undefined name, or all of
it. -/
def quoted (report : String) : FailureCategory → List Char
  | .nameFault => (undefinedName report.toList).getD []
  | .unexpected | .genericRuntime => report.toList
  | _ => []

/-- The suggestions of a category and of those whose labels stand in a text, in the order of the
table. -/
def suggestionsWith (category : FailureCategory) (text : List Char) : List String :=
  (advised.filter fun mark => mark = category ∨ mark.label.toList <:+: text).flatMap suggestions

/-- The word that all labels with suggestions hold. -/
def word : List Char := ['e', 'r', 'r', 'o', 'r']

/-- A label begins with something other than a blank, and is spelled in letters and blanks. -/
theorem label_spelled (kind : FailureCategory) :
    ∃ first text, kind.label = String.ofList (first :: text) ∧ first ≠ ' ' ∧
      (first :: text).all (fun c => c.isAlpha || c == ' ') = true := by
  -- Characters are compared much faster than strings are taken apart.
  cases kind <;> exact ⟨_, _, rfl, by decide, by decide⟩

theorem label_letters (kind : FailureCategory) :
    ∀ c ∈ kind.label.toList, c.isAlpha = true ∨ c = ' ' := by
  obtain ⟨first, text, same, -, all⟩ := kind.label_spelled
  rw [same, @String.toList_ofList (first :: text)]
  intro c member
  simpa using List.all_eq_true.1 all c member

theorem not_mem_label {c : Char} (other : c.isAlpha = false ∧ c ≠ ' ') (kind : FailureCategory) :
    c ∉ kind.label.toList := by
  intro member
  rcases kind.label_letters c member with letter | blank
  · cases other.1.symm.trans letter
  · exact other.2 blank

variable {mark : FailureCategory}

theorem label_apart (among : mark ∈ advised) (kind : FailureCategory) :
    ∃ text other, mark.label = String.ofList text ∧ kind.label = String.ofList other ∧
      (text <:+: other ++ [' '] → mark = kind) := by
  simp only [advised, List.mem_cons, List.not_mem_nil, or_false] at among
  rcases among with rfl | rfl | rfl | rfl | rfl <;> cases kind <;>
    exact ⟨_, _, rfl, rfl, by decide⟩

/-- No label stands within another, also where a blank follows. -/
theorem label_infix_label_iff (among : mark ∈ advised) (kind : FailureCategory) {behind : List Char}
    (blank : behind <+: [' ']) :
    mark.label.toList <:+: kind.label.toList ++ behind ↔ mark = kind := by
  obtain ⟨text, other, same, sameOther, apart⟩ := label_apart among kind
  rw [same, sameOther, @String.toList_ofList text, @String.toList_ofList other]
  constructor
  · intro holds
    exact apart (holds.trans ((List.prefix_append_right_inj _).2 blank).isInfix)
  · rintro rfl
    cases String.ofList_injective (same.symm.trans sameOther)
    exact (List.prefix_append _ behind).isInfix

theorem word_infix_label (among : mark ∈ advised) : word <:+: mark.label.toList := by
  have spelled : ∃ text, mark.label = String.ofList text ∧ word <:+: text := by
    simp only [advised, List.mem_cons, List.not_mem_nil, or_false] at among
    rcases among with rfl | rfl | rfl | rfl | rfl <;> exact ⟨_, rfl, by decide⟩
  obtain ⟨text, same, holds⟩ := spelled
  rw [same, @String.toList_ofList text]
  exact holds

/-- A text without the word holds no such label. -/
theorem label_not_within (among : mark ∈ advised) {text : List Char}
    (clean : ¬ word <:+: text) : ¬ mark.label.toList <:+: text :=
  fun holds => clean ((word_infix_label among).trans holds)

theorem word_not_infix_of_spelled {s : String}
    (spelled : ∃ text, s = String.ofList text ∧ ¬ word <:+: text) : ¬ word <:+: s.toList := by
  obtain ⟨text, rfl, clean⟩ := spelled
  rwa [@String.toList_ofList text]

theorem word_not_infix_line (n : Nat) :
    ¬ word <:+: "Line ".toList ++ Nat.toDigits 10 n ++ [')'] := by
  intro holds
  have letter : 'r' ∈ word := by decide
  have member := holds.subset letter
  simp only [List.mem_append, List.mem_singleton] at member
  rcases member with (inWord | inNumber) | inBracket
  · exact absurd inWord (by decide)
  · cases Text.isDigit_of_mem_toDigits inNumber
  · cases inBracket

/-- What opens a message holds no label but its own. -/
theorem label_infix_opening_iff (among : mark ∈ advised) (kind : FailureCategory)
    (line : Option Nat) :
    mark.label.toList <:+: kind.label.toList ++ (lineMention line).toList ↔ mark = kind := by
  cases line with
  | none => exact label_infix_label_iff among kind List.nil_prefix
  | some n =>
    have parts : kind.label.toList ++ (lineMention (some n)).toList =
        (kind.label.toList ++ [' ']) ++ '(' :: ("Line ".toList ++ Nat.toDigits 10 n ++ [')']) := by
      simp [lineMention]
    rw [parts, Text.infix_around_iff (mark.not_mem_label (by decide)),
      label_infix_label_iff among kind (List.prefix_refl _)]
    exact or_iff_left (label_not_within among (word_not_infix_line n))

/-- What follows in the message about a name holds the labels that the name holds. -/
theorem label_infix_name_iff (among : mark ∈ advised) (name : List Char) :
    mark.label.toList <:+: ("'" ++ String.ofList name ++
        "' is not defined. Did you misspell it or forget to assign it?").toList ↔
      mark.label.toList <:+: name := by
  have apart : '\'' ∉ mark.label.toList := mark.not_mem_label (by decide)
  obtain ⟨behind, spelled, clean⟩ : ∃ behind,
      "' is not defined. Did you misspell it or forget to assign it?" =
        String.ofList ('\'' :: behind) ∧ ¬ word <:+: behind := ⟨_, rfl, by decide +kernel⟩
  have parts : "'".toList ++ name = [] ++ '\'' :: name := rfl
  rw [String.toList_append, String.toList_append, @String.toList_ofList name, spelled,
    @String.toList_ofList ('\'' :: behind), Text.infix_around_iff apart, parts,
    Text.infix_around_iff apart, or_assoc]
  constructor
  · rintro (none | name | behind)
    · exact absurd none (label_not_within among (by decide))
    · exact name
    · exact absurd behind (label_not_within among clean)
  · exact fun holds => .inr (.inl holds)

/-- The other categories say the same of every report, and do not say the word. -/
theorem word_not_infix_advice {kind : FailureCategory}
    (fixed : kind ∉ [.nameFault, .unexpected, .genericRuntime]) (report : String) :
    ¬ word <:+: (kind.advice report).toList := by
  apply word_not_infix_of_spelled
  cases kind with
  | nameFault | unexpected | genericRuntime => exact absurd fixed (by decide)
  | valueFault => exact ⟨_ ++ _, String.ofList_append.symm, by decide +kernel⟩
  | _ => exact ⟨_, rfl, by decide +kernel⟩

theorem quoted_of_fixed {kind : FailureCategory}
    (fixed : kind ∉ [.nameFault, .unexpected, .genericRuntime]) (report : String) :
    kind.quoted report = [] := by
  cases kind with
  | nameFault | unexpected | genericRuntime => exact absurd fixed (by decide)
  | _ => rfl

/-- What follows in a message holds the labels that the repeated text holds. -/
theorem label_infix_advice_iff (among : mark ∈ advised) (report : String)
    (kind : FailureCategory) :
    mark.label.toList <:+: (kind.advice report).toList ↔
      mark.label.toList <:+: kind.quoted report := by
  have empty : ¬ mark.label.toList <:+: [] := label_not_within among (by decide)
  by_cases fixed : kind ∉ [.nameFault, .unexpected, .genericRuntime]
  · rw [quoted_of_fixed fixed]
    exact iff_of_false (label_not_within among (word_not_infix_advice fixed report)) empty
  · simp only [List.mem_cons, List.not_mem_nil, or_false, not_not] at fixed
    rcases fixed with rfl | rfl | rfl
    · rw [advice_nameFault, quoted]
      generalize undefinedName report.toList = found
      cases found with
      | none =>
        have clean := word_not_infix_of_spelled
          (s := "a name was used before it was defined.") ⟨_, rfl, by decide +kernel⟩
        exact iff_of_false (label_not_within among clean) empty
      | some name => exact label_infix_name_iff among name
    · exact Iff.rfl
    · exact Iff.rfl

/-- A label does not begin with the blank behind the colon. -/
theorem label_infix_blank_iff (mark : FailureCategory) (text : List Char) :
    mark.label.toList <:+: ' ' :: text ↔ mark.label.toList <:+: text := by
  obtain ⟨first, rest, same, filled, -⟩ := mark.label_spelled
  rw [same, @String.toList_ofList (first :: rest), List.infix_cons_iff]
  refine or_iff_right fun holds => filled ?_
  exact (List.cons_prefix_cons.1 holds).1

/-- A message holds the label of its category, and what labels the repeated text holds. -/
theorem label_infix_message_iff (among : mark ∈ advised) (kind : FailureCategory)
    (line : Option Nat) (report : String) :
    mark.label.toList <:+: (kind.label ++ lineMention line ++ ": " ++ kind.advice report).toList ↔
      mark = kind ∨ mark.label.toList <:+: kind.quoted report := by
  have parts : (kind.label ++ lineMention line ++ ": " ++ kind.advice report).toList =
      (kind.label.toList ++ (lineMention line).toList) ++
        ':' :: ' ' :: (kind.advice report).toList := by
    simp only [String.toList_append, List.append_assoc]
    rfl
  rw [parts, Text.infix_around_iff (mark.not_mem_label (by decide)),
    label_infix_opening_iff among, label_infix_blank_iff mark, label_infix_advice_iff among]

/-! ## Suggestions -/

/-- The suggestions of a category by its place in the table. -/
def row (kind : FailureCategory) : List String :=
  ((advised.zip (hintTable.map (·.2))).lookup kind).getD []

/-- The rows of the table belong to the categories with suggestions, in this order. -/
theorem suggestions_eq_row : suggestions = row := by
  funext kind
  cases kind <;> simp [suggestions, hintTable, label, List.lookup_cons] <;> rfl

theorem hintTable_eq : hintTable = advised.map fun kind => (kind.label, kind.suggestions) := by
  rw [suggestions_eq_row]
  rfl

theorem hintsFor_eq (message : String) :
    hintsFor message =
      (advised.filter fun mark => Text.occursIn mark.label.toList message.toList).flatMap
        suggestions := by
  rw [hintsFor, hintTable_eq, List.filter_map, List.flatMap_map]
  rfl

theorem hintsFor_message (kind : FailureCategory) (line : Option Nat) (report : String) :
    hintsFor (kind.label ++ lineMention line ++ ": " ++ kind.advice report) =
      kind.suggestionsWith (kind.quoted report) := by
  rw [hintsFor_eq, suggestionsWith]
  congr 1
  refine List.filter_congr fun mark among => ?_
  rw [Bool.eq_iff_iff, Text.occursIn_iff, decide_eq_true_iff]
  exact label_infix_message_iff among kind line report

/-- How many suggestions a category has. -/
theorem suggestions_length (kind : FailureCategory) :
    kind.suggestions.length = match kind with
      | .syntaxFault | .nameFault => 2
      | .indentationFault | .typeFault | .indexFault => 1
      | _ => 0 := by
  rw [suggestions_eq_row]
  cases kind <;> rfl

theorem suggestions_of_filter (kind : FailureCategory) :
    (advised.filter fun mark => mark = kind).flatMap suggestions = kind.suggestions := by
  rw [suggestions_eq_row]
  cases kind <;> rfl

/-- A text asks for nothing more if it holds no other label. -/
theorem suggestionsWith_of_alone {kind : FailureCategory} {text : List Char}
    (alone : ∀ mark ∈ advised, mark.label.toList <:+: text → mark = kind) :
    kind.suggestionsWith text = kind.suggestions := by
  rw [← suggestions_of_filter, suggestionsWith]
  congr 1
  refine List.filter_congr fun mark among => ?_
  rw [decide_eq_decide]
  exact or_iff_left_of_imp (alone mark among)

theorem suggestionsWith_nil (kind : FailureCategory) :
    kind.suggestionsWith [] = kind.suggestions :=
  suggestionsWith_of_alone fun _ among holds => absurd holds (label_not_within among (by decide))

/-- No suggestion is given for two categories. -/
theorem suggestions_nodup : (advised.flatMap suggestions).Nodup := by
  obtain ⟨texts, same, distinct⟩ : ∃ texts : List (List Char),
      advised.flatMap suggestions = texts.map String.ofList ∧ texts.Nodup := by
    rw [suggestions_eq_row]
    exact ⟨[_, _, _, _, _, _, _], rfl, by decide⟩
  rw [same]
  exact List.Pairwise.map _ (fun _ _ differ same => differ (String.ofList_injective same)) distinct

theorem suggestionsWith_nodup (kind : FailureCategory) (text : List Char) :
    (kind.suggestionsWith text).Nodup :=
  suggestions_nodup.sublist (List.filter_sublist.flatMap suggestions)

end FailureCategory

namespace FailureInfo

open FailureCategory

theorem hintsFor_messageOn (report : String) :
    let kind := FailureCategory.ofReport report.toList
    hintsFor (messageOn report) = kind.suggestionsWith (kind.quoted report) := by
  rw [messageOn]
  exact hintsFor_message _ _ report

theorem hints_ofProgramError (report : String) :
    let info := ofProgramError report
    info.hints = info.category.suggestionsWith (info.category.quoted report) := by
  by_cases empty : report = ""
  · have none : genericRuntime.suggestions = [] := List.length_eq_zero_iff.1 (suggestions_length _)
    have nothing : quoted "" .genericRuntime = [] := String.toList_empty
    rw [empty, ofProgramError_empty]
    dsimp only
    rw [nothing, suggestionsWith_nil, none]
  · rw [ofProgramError_of_ne empty]
    dsimp only
    exact hintsFor_messageOn report

/-- A failure of a program gets the suggestions of its category, and besides these only those whose
label stands in the text that the message repeats from the report: each once, and in the order of
the table. Where no other label stands there it gets exactly those of its category, so always where
nothing is repeated. -/
theorem hints_of_quoted (report : String) :
    (ofProgramError report).hints.Nodup ∧
      let info := ofProgramError report
      let quoted := info.category.quoted report
      info.hints =
          (advised.filter fun mark =>
            mark = info.category ∨ mark.label.toList <:+: quoted).flatMap suggestions ∧
        ((∀ mark ∈ advised, mark.label.toList <:+: quoted → mark = info.category) →
          info.hints = info.category.suggestions) ∧
        (info.category ∉ [.nameFault, .genericRuntime] → quoted = []) ∧
        info.category.suggestions.length = match info.category with
          | .syntaxFault | .nameFault => 2
          | .indentationFault | .typeFault | .indexFault => 1
          | _ => 0 := by
  have same := hints_ofProgramError report
  refine ⟨?_, same, ?_, ?_, suggestions_length _⟩
  · rw [same]
    exact suggestionsWith_nodup _ _
  · intro alone
    rw [same]
    exact suggestionsWith_of_alone alone
  · intro fixed
    have raised : (ofProgramError report).category ≠ .unexpected :=
      ofProgramError_category_ne report
    refine quoted_of_fixed ?_ report
    simp only [List.mem_cons, List.not_mem_nil, or_false, not_or] at fixed ⊢
    exact ⟨fixed.1, raised, fixed.2⟩

/-- A report that quotes the label of a category is given the suggestions of that category too: one
that has no category of its own, and one about a name. -/
theorem hints_beyond_category :
    let quoting := ofProgramError "Syntax error"
    let naming := ofProgramError "NameError: name 'Type error' is not defined"
    quoting.category = .genericRuntime ∧ quoting.hints = suggestions .syntaxFault ∧
      quoting.hints ≠ quoting.category.suggestions ∧
      naming.category = .nameFault ∧
      naming.hints = suggestions .nameFault ++ suggestions .typeFault ∧
      naming.hints ≠ naming.category.suggestions := by
  decide +kernel

end FailureInfo

end Tutor
