import Tutor.Proofs.Explain.Wording
import Tutor.Proofs.Text.Blank
import Tutor.Proofs.Text.Find

/-!
The documented order of the rules.

`Clause.documented` states the rules one after another as they are documented: patterns as runs of
regular languages between anchors, everything else by what the characters of the text are. The table
departs from it twice: it looks for the word of an error's block before that of the block that is
watched, and it has two rules where one is documented, for the lines that leave a function. Neither
makes a difference (`LineKind.ofLine_eq_iff`).
-/

namespace Tutor

open Regular Wording

/-- Which kind a documented rule tells of a text, if it takes the text at all. -/
abbrev Clause := List Char → LineKind → Prop

namespace Clause

/-! ## The documented rules -/

/-- The clause that tells one kind of all the texts that it takes. -/
def telling (kind : LineKind) (takes : List Char → Prop) : Clause :=
  fun text told => takes text ∧ told = kind

/-- The line leaves a function: with something built by a loop, or without. -/
def leaving : Clause := fun text kind =>
  HasWord "return" text ∧
    ((HasWord "for" text ∨ HasWord "while" text) ∧ kind = .returnLoop ∨
      ¬(HasWord "for" text ∨ HasWord "while" text) ∧ kind = .returnValue)

/-- The rules in the order in which they are documented. -/
def documented : List Clause := [
  -- Rules 1 to 9: how the line begins.
  telling .blank (· = []),
  telling .comment ("#".toList <+: ·),
  telling .importModule fun text => ∃ word ∈ ["from", "import"],
    Matches atStart [written word, someRun Text.isBlank, someRun Text.isWordChar] anywhere text,
  telling .functionDef (Matches atStart
    [written "def", someRun Text.isBlank, someRun Text.isWordChar, anyRun Text.isBlank, written "("]
    anywhere),
  telling .classDef (Matches atStart
    [written "class", someRun Text.isBlank, someRun Text.isWordChar] anywhere),
  telling .forLoop (Opens "for"),
  telling .whileLoop (Opens "while"),
  telling .ifBranch (Opens "if"),
  telling .elifBranch (Opens "elif"),
  telling .elseBranch (OpensAlone "else"),
  telling .tryBlock (OpensAlone "try"),
  telling .exceptBlock (Matches atStart [written "except"] atEdge),
  telling .finallyBlock (OpensAlone "finally"),
  -- Rules 10 to 13: calls that have a word of their own.
  telling .sequence (CallsOf "range"),
  telling .input (CallsOf "input"),
  telling .length (CallsOf "len"),
  telling .print (Matches atStart [written "print", anyRun Text.isBlank, written "("] anywhere),
  -- Rules 14 to 16: brackets.
  telling .listLiteral (Whole '[' ']'),
  telling .dictLiteral (Whole '\x7b' '\x7d'),
  telling .tupleLiteral (Whole '(' ')'),
  telling .collection fun text =>
    (HasGroup "[" "]" text ∨ HasGroup "\x7b" "\x7d" text ∨ HasGroup "(" ")" text) ∧ ':' ∈ text,
  telling .indexing fun text =>
    Matches anywhere [someRun Text.isWordChar, anyRun Text.isBlank, written "[", anyRun (· != ']'),
      written "]"] anywhere text ∧ ¬HasWord "for" text,
  -- Rules 17 to 20: signs and words.
  telling .arithmetic fun text =>
    (∃ sign ∈ text, sign ∈ "+-*/%".toList) ∧ ¬"print".toList <+: text,
  telling .comparison fun text =>
    ∃ sign ∈ ["==", "!=", "<=", ">=", "<", ">"], sign.toList <:+: text,
  telling .booleanLogic fun text => ∃ word ∈ ["and", "or", "not"], HasWord word text,
  telling .passWord (· = "pass".toList),
  telling .breakWord (· = "break".toList),
  telling .continueWord (· = "continue".toList),
  -- Rules 21 to 26: what is left.
  telling .methodCall (Matches anywhere [someRun Text.isWordChar, written ".",
    someRun Text.isWordChar, anyRun Text.isBlank, written "("] anywhere),
  telling .functionCall (Matches anywhere [someRun Text.isWordChar, anyRun Text.isBlank,
    written "(", anyRun (· != '\n'), written ")"] anywhere),
  leaving,
  telling .assignment fun text => '=' ∈ text ∧ ¬"==".toList <:+: text,
  telling .variableReference fun text => ∃ first rest, text = first :: rest ∧
    (first.isAlpha = true ∨ first = '_') ∧ ∀ c ∈ rest, Text.isWordChar c = true,
  telling .statement fun _ => True]

/-- The first clause that takes the text tells its kind. -/
inductive Tells : List Clause → List Char → LineKind → Prop
  | here {clause : Clause} {later : List Clause} {text : List Char} {kind : LineKind} :
    clause text kind → Tells (clause :: later) text kind
  | later {clause : Clause} {later : List Clause} {text : List Char} {kind : LineKind} :
    (∀ other, ¬clause text other) → Tells later text kind → Tells (clause :: later) text kind

theorem tells_cons_iff {clause : Clause} {later : List Clause} {text : List Char}
    {kind : LineKind} :
    Tells (clause :: later) text kind ↔
      clause text kind ∨ (∀ other, ¬clause text other) ∧ Tells later text kind := by
  constructor
  · intro tells
    cases tells with
    | here told => exact .inl told
    | later passed tells => exact .inr ⟨passed, tells⟩
  · rintro (told | ⟨passed, tells⟩)
    · exact .here told
    · exact .later passed tells

end Clause

/-! ## Rules and clauses -/

open Clause

/-- A rule does what a clause says. -/
def Rule.Means (rule : Rule) (clause : Clause) : Prop :=
  ∀ text kind, clause text kind ↔ rule.applies text = true ∧ kind = rule.kind

/-- Rules in a row do what clauses in a row say. Two rules that never apply both may stand the other
way round, and two rules may share a clause. -/
inductive Agrees : List Rule → List Clause → Prop
  | done : Agrees [] [telling .statement fun _ => True]
  | same {rule : Rule} {clause : Clause} {rules : List Rule} {clauses : List Clause} :
    rule.Means clause → Agrees rules clauses → Agrees (rule :: rules) (clause :: clauses)
  | swapped {first second : Rule} {clause other : Clause} {rules : List Rule}
    {clauses : List Clause} :
    first.Means other → second.Means clause →
    (∀ text, first.applies text = true → second.applies text = false) →
    Agrees rules clauses → Agrees (first :: second :: rules) (clause :: other :: clauses)
  | joined {first second : Rule} {clause : Clause} {rules : List Rule} {clauses : List Clause} :
    (∀ text kind, clause text kind ↔ first.applies text = true ∧ kind = first.kind ∨
      first.applies text = false ∧ second.applies text = true ∧ kind = second.kind) →
    Agrees rules clauses → Agrees (first :: second :: rules) (clause :: clauses)

theorem LineKind.byRules_cons (rule : Rule) (rules : List Rule) (text : List Char) :
    byRules (rule :: rules) text =
      if rule.applies text = true then rule.kind else byRules rules text := by
  rw [byRules, List.find?_cons]
  cases rule.applies text <;> rfl

theorem Rule.Means.tells_iff {rule : Rule} {clause : Clause} (means : rule.Means clause)
    {later : List Clause} {text : List Char} {kind : LineKind} :
    Tells (clause :: later) text kind ↔
      if rule.applies text = true then rule.kind = kind else Tells later text kind := by
  rw [tells_cons_iff]
  split
  · rename_i applies
    constructor
    · rintro (told | ⟨passed, -⟩)
      · exact ((means text kind).1 told).2.symm
      · exact absurd ((means text rule.kind).2 ⟨applies, rfl⟩) (passed rule.kind)
    · rintro rfl
      exact .inl ((means text rule.kind).2 ⟨applies, rfl⟩)
  · rename_i passes
    constructor
    · rintro (told | ⟨-, tells⟩)
      · exact absurd ((means text kind).1 told).1 passes
      · exact tells
    · exact fun tells => .inr ⟨fun other told => passes ((means text other).1 told).1, tells⟩

/-- Rules that agree with clauses tell the same kinds. -/
theorem Agrees.byRules_eq_iff {rules : List Rule} {clauses : List Clause}
    (agrees : Agrees rules clauses) {text : List Char} {kind : LineKind} :
    LineKind.byRules rules text = kind ↔ Tells clauses text kind := by
  induction agrees with
  | done =>
    constructor
    · rintro rfl
      exact .here ⟨trivial, rfl⟩
    · rintro (⟨-, rfl⟩ | ⟨passed, -⟩)
      · rfl
      · exact absurd ⟨trivial, rfl⟩ (passed .statement)
  | same means _ ih =>
    rw [LineKind.byRules_cons, means.tells_iff, ← ih]
    split <;> rfl
  | @swapped first second _ _ _ _ meansOther means apart _ ih =>
    rw [LineKind.byRules_cons, LineKind.byRules_cons, means.tells_iff, meansOther.tells_iff, ← ih]
    -- Where the first applies the second does not, so the first decides in either order.
    by_cases applies : first.applies text = true
    · rw [if_pos applies, if_neg (by rw [apart text applies]; nofun), if_pos applies]
    · rw [if_neg applies, if_neg applies]
      split <;> rfl
  | @joined first second clause _ _ means _ ih =>
    rw [LineKind.byRules_cons, LineKind.byRules_cons, tells_cons_iff, ← ih]
    simp only [means]
    cases first.applies text <;> cases second.applies text <;> simp [eq_comm]

/-! ## The rules of the table -/

namespace Rule

open Pattern

theorem means_of_iff {kind : LineKind} {applies : List Char → Bool} {takes : List Char → Prop}
    (same : ∀ text, applies text = true ↔ takes text) :
    (⟨kind, applies⟩ : Rule).Means (telling kind takes) := by
  intro text told
  rw [telling, ← same text]

theorem ofPattern_means {kind : LineKind} {p : Pattern} {takes : List Char → Prop}
    (same : ∀ text, p.Occurs text ↔ takes text) :
    (ofPattern kind p).Means (telling kind takes) :=
  means_of_iff fun text => occursIn_iff.trans (same text)

theorem collection_iff (text : List Char) :
    (groupPattern.occursIn text && text.contains ':') = true ↔
      (HasGroup "[" "]" text ∨ HasGroup "\x7b" "\x7d" text ∨ HasGroup "(" ")" text) ∧
        ':' ∈ text := by
  rw [Bool.and_eq_true, List.contains_iff_mem, occursIn_iff, groupPattern, occurs_either_iff,
    occurs_either_iff, filled_iff, filled_iff, filled_iff, or_assoc]

theorem indexing_iff (text : List Char) :
    (indexPattern.occursIn text && !forPattern.occursIn text) = true ↔
      Matches anywhere [someRun Text.isWordChar, anyRun Text.isBlank, written "[",
        anyRun (· != ']'), written "]"] anywhere text ∧ ¬HasWord "for" text := by
  rw [Bool.and_eq_true, Bool.not_eq_true', ← Bool.not_eq_true, occursIn_iff, occursIn_iff,
    indexPattern_iff, forPattern_iff]

theorem arithmetic_iff (text : List Char) :
    (arithmeticPattern.occursIn text && !"print".toList.isPrefixOf text) = true ↔
      (∃ sign ∈ text, sign ∈ "+-*/%".toList) ∧ ¬"print".toList <+: text := by
  rw [Bool.and_eq_true, Bool.not_eq_true', ← Bool.not_eq_true, occursIn_iff,
    List.isPrefixOf_iff_prefix, arithmeticPattern_iff]

theorem assignment_iff (text : List Char) :
    (text.contains '=' && !Text.occursIn "==".toList text) = true ↔
      '=' ∈ text ∧ ¬"==".toList <:+: text := by
  rw [Bool.and_eq_true, Bool.not_eq_true', ← Bool.not_eq_true, List.contains_iff_mem,
    Text.occursIn_iff]

theorem loops_iff (text : List Char) :
    loopPattern.occursIn text = true ↔ HasWord "for" text ∨ HasWord "while" text := by
  rw [occursIn_iff, loopPattern_iff]
  simp

theorem comment_iff (text : List Char) :
    (text.head? == some '#') = true ↔ "#".toList <+: text := by
  rw [beq_iff_eq, List.head?_eq_some_iff]
  exact exists_congr fun rest => eq_comm

/-- The two rules for lines that leave a function share the documented one. -/
theorem leaving_iff (text : List Char) (kind : LineKind) :
    leaving text kind ↔
      (returnPattern.occursIn text && loopPattern.occursIn text) = true ∧ kind = .returnLoop ∨
        (returnPattern.occursIn text && loopPattern.occursIn text) = false ∧
          returnPattern.occursIn text = true ∧ kind = .returnValue := by
  rw [leaving, ← loops_iff, ← returnPattern_iff, ← occursIn_iff]
  cases returnPattern.occursIn text <;> cases loopPattern.occursIn text <;> simp

/-- The line of an error's block is none of a block that is watched. -/
theorem except_apart (text : List Char) (isExcept : exceptPattern.occursIn text = true) :
    (openingAlone "try").occursIn text = false := by
  by_contra isTry
  rw [Bool.not_eq_false, occursIn_iff, openingAlone_iff] at isTry
  rw [occursIn_iff, exceptPattern_iff] at isExcept
  have apart := List.prefix_or_prefix_of_prefix isExcept.begins isTry.begins
  revert apart
  decide

end Rule

/-- The table does what is documented. -/
theorem Rule.table_agrees : Agrees Rule.table documented :=
  .same (means_of_iff fun _ => List.isEmpty_iff) <|
  .same (means_of_iff comment_iff) <|
  .same (ofPattern_means importPattern_iff) <|
  .same (ofPattern_means functionPattern_iff) <|
  .same (ofPattern_means classPattern_iff) <|
  .same (ofPattern_means (opening_iff · "for")) <|
  .same (ofPattern_means (opening_iff · "while")) <|
  .same (ofPattern_means (opening_iff · "if")) <|
  .same (ofPattern_means (opening_iff · "elif")) <|
  .same (ofPattern_means (openingAlone_iff · "else")) <|
  .swapped (ofPattern_means exceptPattern_iff) (ofPattern_means (openingAlone_iff · "try"))
    except_apart <|
  .same (ofPattern_means (openingAlone_iff · "finally")) <|
  .same (ofPattern_means (callOf_iff · "range")) <|
  .same (ofPattern_means (callOf_iff · "input")) <|
  .same (ofPattern_means (callOf_iff · "len")) <|
  .same (ofPattern_means printPattern_iff) <|
  .same (means_of_iff (isWhole_iff '[' ']')) <|
  .same (means_of_iff (isWhole_iff '\x7b' '\x7d')) <|
  .same (means_of_iff (isWhole_iff '(' ')')) <|
  .same (means_of_iff collection_iff) <|
  .same (means_of_iff indexing_iff) <|
  .same (means_of_iff arithmetic_iff) <|
  .same (ofPattern_means comparisonPattern_iff) <|
  .same (ofPattern_means booleanPattern_iff) <|
  .same (means_of_iff fun _ => beq_iff_eq) <|
  .same (means_of_iff fun _ => beq_iff_eq) <|
  .same (means_of_iff fun _ => beq_iff_eq) <|
  .same (ofPattern_means methodPattern_iff) <|
  .same (ofPattern_means callPattern_iff) <|
  .joined leaving_iff <|
  .same (means_of_iff assignment_iff) <|
  .same (ofPattern_means namePattern_iff) .done

/-- The kind of a line is what the documented rules tell, in their order, of its text without the
white space at its ends. -/
theorem LineKind.ofLine_eq_iff (line : String) (kind : LineKind) :
    LineKind.ofLine line = kind ↔
      ∃ text, Text.Stripped line.toList text ∧ Tells documented text kind := by
  rw [ofLine, Rule.table_agrees.byRules_eq_iff]
  simp only [Text.stripped_iff, exists_eq_left]

end Tutor
