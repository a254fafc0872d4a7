import Tutor.Explain.Rule
import Tutor.Proofs.Pattern.Regular

/-!
What the patterns of the rules look for.

Each pattern of the table occurs in a text exactly where the text has a run of a regular language
between two anchors, or where its characters are as stated.
-/

namespace Tutor

open Regular

namespace Wording

/-- The word stands in the text by itself. -/
def HasWord (word : String) (text : List Char) : Prop := Matches atEdge [written word] atEdge text

/-- The text is this pair of brackets with anything between. -/
def Whole (opened closed : Char) (text : List Char) : Prop :=
  ∃ inner, text = opened :: (inner ++ [closed])

/-- Something stands between such brackets, on one line. -/
def HasGroup (opened closed : String) (text : List Char) : Prop :=
  Matches anywhere [written opened, someRun (· != '\n'), written closed] anywhere text

/-- A word at the start, blanks, and whatever else. -/
def Opens (word : String) (text : List Char) : Prop :=
  Matches atStart [written word, someRun Text.isBlank] anywhere text

/-- A word at the start, and a colon. -/
def OpensAlone (word : String) (text : List Char) : Prop :=
  Matches atStart [written word, anyRun Text.isBlank, written ":"] anywhere text

/-- The word begins a call. -/
def CallsOf (word : String) (text : List Char) : Prop :=
  Matches atEdge [written word, anyRun Text.isBlank, written "("] anywhere text

end Wording

namespace Rule

open Pattern Wording

section Patterns

variable (text : List Char)

theorem importPattern_iff : importPattern.Occurs text ↔ ∃ word ∈ ["from", "import"],
    Matches atStart [written word, someRun Text.isBlank, someRun Text.isWordChar] anywhere text :=
  (occurs_atStart_iff rfl text).trans (matches_alternatives_iff fun _ => mem_language_oneOfTexts)

theorem functionPattern_iff : functionPattern.Occurs text ↔ Matches atStart
    [written "def", someRun Text.isBlank, someRun Text.isWordChar, anyRun Text.isBlank, written "("]
    anywhere text := by
  simp only [← language_literal]
  exact occurs_atStart_iff rfl text

theorem classPattern_iff : classPattern.Occurs text ↔ Matches atStart
    [written "class", someRun Text.isBlank, someRun Text.isWordChar] anywhere text := by
  rw [← language_literal]
  exact occurs_atStart_iff rfl text

theorem opening_iff (word : String) : (opening word).Occurs text ↔ Opens word text := by
  rw [Opens, ← language_literal]
  refine occurs_atStart_iff ?_ text
  exact Bool.and_eq_true_iff.2 ⟨isPlain_literal word, rfl⟩

theorem openingAlone_iff (word : String) :
    (openingAlone word).Occurs text ↔ OpensAlone word text := by
  simp only [OpensAlone, ← language_literal]
  refine occurs_atStart_iff ?_ text
  exact Bool.and_eq_true_iff.2 ⟨isPlain_literal word, rfl⟩

theorem callOf_iff (word : String) : (callOf word).Occurs text ↔ CallsOf word text := by
  simp only [CallsOf, ← language_literal]
  refine occurs_atEdge_iff ?_ text
  exact Bool.and_eq_true_iff.2 ⟨isPlain_literal word, rfl⟩

theorem exceptPattern_iff :
    exceptPattern.Occurs text ↔ Matches atStart [written "except"] atEdge text := by
  rw [← language_literal]
  exact occurs_inOrder_iff (some .textStart) (some .wordEdge)
    (rfl : (inOrder [literal "except"]).isPlain = true) text

theorem printPattern_iff : printPattern.Occurs text ↔
    Matches atStart [written "print", anyRun Text.isBlank, written "("] anywhere text := by
  simp only [← language_literal]
  exact occurs_atStart_iff rfl text

theorem filled_iff (opened closed : String) :
    (filled opened closed).Occurs text ↔ HasGroup opened closed text := by
  have plain : (inOrder [literal opened, .one (.allBut '\n'), withinLine, literal closed]).isPlain =
      true := by
    simp [inOrder, isPlain, withinLine, isPlain_literal]
  have pieces : [(literal opened).language, someRun (· != '\n'), (literal closed).language].prod =
      ([literal opened, .one (.allBut '\n'), withinLine, literal closed].map language).prod := by
    simp only [List.map_cons, List.map_nil, List.prod_cons, someRun, mul_assoc]
    rfl
  simp only [HasGroup, ← language_literal, Matches, pieces]
  exact occurs_anywhere_iff plain text

theorem indexPattern_iff : indexPattern.Occurs text ↔
    Matches anywhere [someRun Text.isWordChar, anyRun Text.isBlank, written "[", anyRun (· != ']'),
      written "]"] anywhere text := by
  simp only [← language_literal]
  exact occurs_anywhere_iff rfl text

theorem arithmeticPattern_iff :
    arithmeticPattern.Occurs text ↔ ∃ sign ∈ text, sign ∈ "+-*/%".toList := by
  rw [occurs_iff rfl]
  constructor
  · rintro ⟨before, _, behind, rfl, sign, rfl, among⟩
    exact ⟨sign, by simp, List.contains_iff_mem.1 among⟩
  · rintro ⟨sign, member, among⟩
    obtain ⟨before, behind, rfl⟩ := List.append_of_mem member
    exact ⟨before, [sign], behind, by simp, sign, rfl, List.contains_iff_mem.2 among⟩

theorem comparisonPattern_iff : comparisonPattern.Occurs text ↔
    ∃ sign ∈ ["==", "!=", "<=", ">=", "<", ">"], sign.toList <:+: text := by
  rw [occurs_iff rfl]
  simp only [comparisonPattern, mem_language_oneOfTexts]
  constructor
  · rintro ⟨before, _, behind, rfl, sign, member, rfl⟩
    exact ⟨sign, member, before, behind, rfl⟩
  · rintro ⟨sign, member, before, behind, rfl⟩
    exact ⟨before, _, behind, rfl, sign, member, rfl⟩

theorem booleanPattern_iff :
    booleanPattern.Occurs text ↔ ∃ word ∈ ["and", "or", "not"], HasWord word text :=
  (occurs_word_iff rfl text).trans (matches_alternatives_iff fun _ => mem_language_oneOfTexts)

theorem loopPattern_iff :
    loopPattern.Occurs text ↔ ∃ word ∈ ["for", "while"], HasWord word text :=
  (occurs_word_iff rfl text).trans (matches_alternatives_iff fun _ => mem_language_oneOfTexts)

theorem forPattern_iff : forPattern.Occurs text ↔ HasWord "for" text := by
  rw [HasWord, ← language_literal]
  exact occurs_word_iff rfl text

theorem returnPattern_iff : returnPattern.Occurs text ↔ HasWord "return" text := by
  rw [HasWord, ← language_literal]
  exact occurs_word_iff rfl text

theorem methodPattern_iff : methodPattern.Occurs text ↔ Matches anywhere [someRun Text.isWordChar,
    written ".", someRun Text.isWordChar, anyRun Text.isBlank, written "("] anywhere text := by
  simp only [← language_literal]
  exact occurs_anywhere_iff rfl text

theorem callPattern_iff : callPattern.Occurs text ↔ Matches anywhere [someRun Text.isWordChar,
    anyRun Text.isBlank, written "(", anyRun (· != '\n'), written ")"] anywhere text := by
  simp only [← language_literal]
  exact occurs_anywhere_iff rfl text

theorem namePattern_iff : namePattern.Occurs text ↔ ∃ first rest, text = first :: rest ∧
    (first.isAlpha = true ∨ first = '_') ∧ ∀ c ∈ rest, Text.isWordChar c = true := by
  have plain : (inOrder [.one .nameStart, .many (.one .word)]).isPlain = true := rfl
  have nameStart (c : Char) :
      CharClass.nameStart.contains c = true ↔ c.isAlpha = true ∨ c = '_' := by
    rw [CharClass.contains, Bool.or_eq_true, beq_iff_eq]
  have pieces : ([.one .nameStart, .many (.one .word)].map language).prod =
      single CharClass.nameStart.contains * anyRun Text.isWordChar := by
    rw [List.map_cons, List.map_singleton, List.prod_cons, List.prod_singleton]
    rfl
  refine (occurs_inOrder_iff (some .textStart) (some .textEnd) plain text).trans ?_
  rw [Matches, pieces]
  constructor
  · rintro ⟨_, _, _, rfl, rfl, member, rfl⟩
    obtain ⟨_, ⟨first, rfl, starts⟩, rest, inside, rfl⟩ := Language.mem_mul.1 member
    exact ⟨first, rest, by simp, (nameStart first).1 starts, mem_anyRun_iff.1 inside⟩
  · rintro ⟨first, rest, rfl, starts, inside⟩
    have start : [first] ∈ single CharClass.nameStart.contains :=
      ⟨first, rfl, (nameStart first).2 starts⟩
    exact ⟨[], first :: rest, [], by simp, rfl,
      Language.append_mem_mul start (mem_anyRun_iff.2 inside), rfl⟩

end Patterns

theorem isWhole_iff (opened closed : Char) (text : List Char) :
    isWhole opened closed text = true ↔ Whole opened closed text := by
  simp only [isWhole, Bool.and_eq_true, decide_eq_true_eq, beq_iff_eq]
  constructor
  · rintro ⟨⟨long, first⟩, last⟩
    obtain ⟨rest, rfl⟩ := List.head?_eq_some_iff.1 first
    rcases List.eq_nil_or_concat rest with rfl | ⟨inner, final, rfl⟩
    · simp at long
    · rw [List.concat_eq_append, ← List.cons_append, List.getLast?_concat] at last
      cases last
      exact ⟨inner, by rw [List.concat_eq_append]⟩
  · rintro ⟨inner, rfl⟩
    rw [← List.cons_append, List.getLast?_concat]
    exact ⟨⟨by simp, rfl⟩, rfl⟩

end Rule

end Tutor
