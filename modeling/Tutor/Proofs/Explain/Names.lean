import Tutor.Proofs.Explain.Order

/-!
Names that stand alone.

A name is a run of word characters, while most rules look for a character that no word has: a blank,
a bracket, a colon or a sign. Of all rules only a few take a name, each for words of its own
(`Rule.applies_name_iff`). Apart from those words a name is a reference to a variable, and nothing
else is one (`LineKind.ofLine_eq_variableReference_iff`).
-/

namespace Tutor

open Regular Wording

/-- A text that is a name: an ASCII letter or an underscore, and word characters behind it. -/
def IsName (text : List Char) : Prop :=
  ∃ first rest, text = first :: rest ∧ (first.isAlpha = true ∨ first = '_') ∧
    ∀ c ∈ rest, Text.isWordChar c = true

/-! ## Runs of word characters -/

/-- The text consists of word characters. -/
def Wordy (text : List Char) : Prop := ∀ c ∈ text, Text.isWordChar c = true

instance (text : List Char) : Decidable (Wordy text) :=
  decidable_of_iff (text.all Text.isWordChar = true) List.all_eq_true

theorem IsName.wordy {text : List Char} (name : IsName text) : Wordy text := by
  obtain ⟨first, rest, rfl, start, inside⟩ := name
  exact List.forall_mem_cons.2 ⟨Text.isWordChar_of_nameStart start, inside⟩

theorem IsName.ne_nil {text : List Char} (name : IsName text) : text ≠ [] := by
  obtain ⟨first, rest, rfl, -⟩ := name
  exact List.cons_ne_nil first rest

namespace Wordy

variable {text : List Char}

theorem of_infix {part : List Char} (wordy : Wordy text) (isPart : part <:+: text) : Wordy part :=
  fun c member => wordy c (isPart.subset member)

theorem not_mem {c : Char} (wordy : Wordy text) (foreign : Text.isWordChar c = false) :
    c ∉ text := by
  intro member
  cases foreign.symm.trans (wordy c member)

theorem not_infix {part : List Char} (wordy : Wordy text) (foreign : ¬ Wordy part) :
    ¬ part <:+: text :=
  fun isPart => foreign (wordy.of_infix isPart)

/-- Nothing that a piece with another character belongs to matches. -/
theorem not_matches_written {left right : Anchor} {pieces : List (Language Char)} {s : String}
    (wordy : Wordy text) (piece : written s ∈ pieces) (foreign : ¬ Wordy s.toList) :
    ¬ Matches left pieces right text := by
  intro found
  obtain ⟨part, rfl, isPart⟩ := found.exists_infix piece
  exact wordy.not_infix foreign isPart

/-- Nothing that takes a blank matches. -/
theorem not_matches_blank {left right : Anchor} {pieces : List (Language Char)}
    (wordy : Wordy text) (piece : someRun Text.isBlank ∈ pieces) :
    ¬ Matches left pieces right text := by
  intro found
  obtain ⟨part, blanks, isPart⟩ := found.exists_infix piece
  obtain ⟨_, ⟨c, rfl, blank⟩, rest, -, rfl⟩ := Language.mem_mul.1 blanks
  have inside : c ∈ text := isPart.subset (List.mem_append_left rest List.mem_cons_self)
  exact wordy.not_mem (Text.isWordChar_of_isBlank blank) inside

/-- The only edges of a word in such a text are its two ends. -/
theorem atEdge_iff {before behind : List Char} (wordy : Wordy (before ++ behind)) :
    atEdge before behind ↔ ¬(before = [] ↔ behind = []) := by
  have last : (∃ c ∈ before.getLast?, Text.isWordChar c = true) ↔ before ≠ [] := by
    constructor
    · rintro ⟨c, member, -⟩ rfl
      cases member
    · intro filled
      refine ⟨before.getLast filled, List.getLast?_eq_some_getLast filled, ?_⟩
      exact wordy _ (List.mem_append_left behind (List.getLast_mem filled))
  have first : (∃ c ∈ behind.head?, Text.isWordChar c = true) ↔ behind ≠ [] := by
    constructor
    · rintro ⟨c, member, -⟩ rfl
      cases member
    · intro filled
      refine ⟨behind.head filled, List.head?_eq_some_head filled, ?_⟩
      exact wordy _ (List.mem_append_right before (List.head_mem filled))
  rw [atEdge, last, first]
  exact not_congr not_iff_not

/-- Before a character of such a text there is an edge at the start only. -/
theorem atEdge_iff_nil {before behind : List Char} (wordy : Wordy (before ++ behind))
    (filled : behind ≠ []) : atEdge before behind ↔ before = [] := by
  rw [wordy.atEdge_iff]
  simp [filled]

/-- A word up to an edge is the whole of such a text, where only the start can stand before it. -/
theorem matches_word_iff {left : Anchor} {word : String} (wordy : Wordy text)
    (filled : word.toList ≠ [])
    (start : ∀ before behind, text = before ++ behind → behind ≠ [] →
      (left before behind ↔ before = [])) :
    Matches left [written word] atEdge text ↔ text = word.toList := by
  constructor
  · rintro ⟨before, run, behind, whole, front, member, back⟩
    rw [List.prod_singleton] at member
    obtain rfl : run = word.toList := member
    have noneBefore : before = [] :=
      (start before _ (by rw [whole, List.append_assoc]) (by simp [filled])).1 front
    subst whole
    rw [wordy.atEdge_iff] at back
    have noneBehind : behind = [] := by
      by_contra some
      exact back (iff_of_false (by simp [filled]) some)
    rw [noneBefore, noneBehind, List.nil_append, List.append_nil]
  · intro whole
    have member : word.toList ∈ [written word].prod := by
      rw [List.prod_singleton]
      rfl
    have edges : Wordy (word.toList ++ []) := by rwa [List.append_nil, ← whole]
    refine ⟨[], word.toList, [], by simp [whole], ?_, member, ?_⟩
    · exact (start [] _ (by simp [whole]) (by simp [filled])).2 rfl
    · exact edges.atEdge_iff.2 (by simp [filled])

theorem beginsWith_iff {word : String} (wordy : Wordy text) (filled : word.toList ≠ []) :
    Matches atStart [written word] atEdge text ↔ text = word.toList :=
  wordy.matches_word_iff filled fun _ _ _ _ => Iff.rfl

theorem hasWord_iff {word : String} (wordy : Wordy text) (filled : word.toList ≠ []) :
    HasWord word text ↔ text = word.toList := by
  refine wordy.matches_word_iff filled fun before behind whole some => ?_
  subst whole
  exact wordy.atEdge_iff_nil some

end Wordy

/-! ## The rules that take a name -/

/-- The names that make a line of this kind where they stand alone. -/
def LineKind.ownNames : LineKind → List String
  | .exceptBlock => ["except"]
  | .booleanLogic => ["and", "or", "not"]
  | .passWord => ["pass"]
  | .breakWord => ["break"]
  | .continueWord => ["continue"]
  | .returnValue => ["return"]
  | _ => []

/-- The names that are no references to variables where they stand alone. -/
def claimedNames : List String :=
  ["except", "and", "or", "not", "pass", "break", "continue", "return"]

theorem LineKind.ownNames_subset (kind : LineKind) : kind.ownNames ⊆ claimedNames := by
  unfold LineKind.ownNames
  split <;> decide

namespace Rule

open Pattern

/-- Of all names the rule takes these. -/
def TakesNames (rule : Rule) (words : List String) : Prop :=
  ∀ text, IsName text → (rule.applies text = true ↔ ∃ word ∈ words, text = word.toList)

section TakesNames

variable {kind : LineKind} {applies : List Char → Bool} {takes : List Char → Prop} {p : Pattern}

theorem takesNone (same : ∀ text, applies text = true ↔ takes text)
    (none : ∀ text, IsName text → ¬ takes text) : (⟨kind, applies⟩ : Rule).TakesNames [] := by
  intro text name
  have passes := (same text).not.2 (none text name)
  simpa using passes

theorem ofPattern_takesNone (same : ∀ text, p.Occurs text ↔ takes text)
    (none : ∀ text, IsName text → ¬ takes text) : (ofPattern kind p).TakesNames [] :=
  takesNone (fun text => occursIn_iff.trans (same text)) none

theorem isWord_takesName (word : String) : (⟨kind, isWord word⟩ : Rule).TakesNames [word] := by
  intro text _
  simp [isWord]

end TakesNames

/-- A text in brackets is no name. -/
theorem not_whole {opened : Char} (foreign : Text.isWordChar opened = false) (closed : Char)
    (text : List Char) (name : IsName text) : ¬ Whole opened closed text := by
  rintro ⟨inner, rfl⟩
  exact name.wordy.not_mem foreign List.mem_cons_self

theorem except_takesName : (ofPattern .exceptBlock exceptPattern).TakesNames ["except"] := by
  intro text name
  rw [ofPattern, occursIn_iff, exceptPattern_iff, name.wordy.beginsWith_iff (by simp)]
  simp

theorem boolean_takesNames :
    (ofPattern .booleanLogic booleanPattern).TakesNames ["and", "or", "not"] := by
  intro text name
  rw [ofPattern, occursIn_iff, booleanPattern_iff]
  refine exists_congr fun word => and_congr_right fun member => name.wordy.hasWord_iff ?_
  revert word
  decide

theorem return_takesName : (ofPattern .returnValue returnPattern).TakesNames ["return"] := by
  intro text name
  rw [ofPattern, occursIn_iff, returnPattern_iff, name.wordy.hasWord_iff (by simp)]
  simp

/-- A name is not both the word that leaves a function and the word of a loop. -/
theorem returnLoop_takesNone :
    (⟨.returnLoop, fun text => returnPattern.occursIn text && loopPattern.occursIn text⟩ :
      Rule).TakesNames [] := by
  have leavesInLoop (text : List Char) :
      (returnPattern.occursIn text && loopPattern.occursIn text) = true ↔
        HasWord "return" text ∧ (HasWord "for" text ∨ HasWord "while" text) := by
    rw [Bool.and_eq_true, loops_iff, occursIn_iff, returnPattern_iff]
  refine takesNone leavesInLoop ?_
  rintro text name ⟨leaves, loops⟩
  rw [name.wordy.hasWord_iff (by simp)] at leaves
  rw [name.wordy.hasWord_iff (by simp), name.wordy.hasWord_iff (by simp), leaves] at loops
  revert loops
  decide

theorem opening_takesNone (kind : LineKind) (word : String) :
    (ofPattern kind (opening word)).TakesNames [] :=
  ofPattern_takesNone (opening_iff · word) fun _ name => name.wordy.not_matches_blank (by simp)

theorem openingAlone_takesNone (kind : LineKind) (word : String) :
    (ofPattern kind (openingAlone word)).TakesNames [] :=
  ofPattern_takesNone (openingAlone_iff · word) fun _ name =>
    name.wordy.not_matches_written (s := ":") (by simp) (by decide)

theorem callOf_takesNone (kind : LineKind) (word : String) :
    (ofPattern kind (callOf word)).TakesNames [] :=
  ofPattern_takesNone (callOf_iff · word) fun _ name =>
    name.wordy.not_matches_written (s := "(") (by simp) (by decide)

theorem isWhole_takesNone (kind : LineKind) {opened : Char}
    (foreign : Text.isWordChar opened = false) (closed : Char) :
    (⟨kind, isWhole opened closed⟩ : Rule).TakesNames [] :=
  takesNone (isWhole_iff opened closed) (not_whole foreign closed)

/-- Which names each rule takes, apart from the rule for variables. -/
theorem table_takesNames :
    ∀ rule ∈ table, rule.kind = .variableReference ∨ rule.TakesNames rule.kind.ownNames := by
  rw [table]
  simp only [List.forall_mem_cons]
  refine ⟨.inr ?blank, .inr ?comment, .inr ?importModule, .inr ?functionDef, .inr ?classDef,
    .inr (opening_takesNone _ _), .inr (opening_takesNone _ _), .inr (opening_takesNone _ _),
    .inr (opening_takesNone _ _), .inr (openingAlone_takesNone _ _), .inr except_takesName,
    .inr (openingAlone_takesNone _ _), .inr (openingAlone_takesNone _ _),
    .inr (callOf_takesNone _ _), .inr (callOf_takesNone _ _), .inr (callOf_takesNone _ _),
    .inr ?print, .inr (isWhole_takesNone _ (by decide) _), .inr (isWhole_takesNone _ (by decide) _),
    .inr (isWhole_takesNone _ (by decide) _), .inr ?collection, .inr ?indexing, .inr ?arithmetic,
    .inr ?comparison, .inr boolean_takesNames, .inr (isWord_takesName _),
    .inr (isWord_takesName _), .inr (isWord_takesName _), .inr ?methodCall, .inr ?functionCall,
    .inr returnLoop_takesNone, .inr return_takesName, .inr ?assignment, .inl rfl,
    List.forall_mem_nil _⟩
  case blank => exact takesNone (fun _ => List.isEmpty_iff) fun _ name => name.ne_nil
  case comment =>
    refine takesNone comment_iff fun _ name begins => ?_
    exact name.wordy.not_infix (by decide) begins.isInfix
  case importModule =>
    refine ofPattern_takesNone importPattern_iff ?_
    rintro text name ⟨word, -, found⟩
    exact name.wordy.not_matches_blank (by simp) found
  case functionDef =>
    exact ofPattern_takesNone functionPattern_iff fun _ name =>
      name.wordy.not_matches_blank (by simp)
  case classDef =>
    exact ofPattern_takesNone classPattern_iff fun _ name => name.wordy.not_matches_blank (by simp)
  case print =>
    exact ofPattern_takesNone printPattern_iff fun _ name =>
      name.wordy.not_matches_written (s := "(") (by simp) (by decide)
  case collection =>
    refine takesNone collection_iff ?_
    rintro text name ⟨-, colon⟩
    exact name.wordy.not_mem (by decide) colon
  case indexing =>
    refine takesNone indexing_iff ?_
    rintro text name ⟨found, -⟩
    exact name.wordy.not_matches_written (s := "[") (by simp) (by decide) found
  case arithmetic =>
    refine takesNone arithmetic_iff ?_
    rintro text name ⟨⟨sign, member, among⟩, -⟩
    have foreign : "+-*/%".toList.all (Text.isWordChar · == false) = true := by decide
    exact name.wordy.not_mem (beq_iff_eq.1 (List.all_eq_true.1 foreign sign among)) member
  case comparison =>
    refine ofPattern_takesNone comparisonPattern_iff ?_
    rintro text name ⟨sign, among, isPart⟩
    have foreign : ∀ sign ∈ ["==", "!=", "<=", ">=", "<", ">"], ¬ Wordy sign.toList := by decide
    exact name.wordy.not_infix (foreign sign among) isPart
  case methodCall =>
    exact ofPattern_takesNone methodPattern_iff fun _ name =>
      name.wordy.not_matches_written (s := "(") (by simp) (by decide)
  case functionCall =>
    exact ofPattern_takesNone callPattern_iff fun _ name =>
      name.wordy.not_matches_written (s := "(") (by simp) (by decide)
  case assignment =>
    refine takesNone assignment_iff ?_
    rintro text name ⟨sign, -⟩
    exact name.wordy.not_mem (by decide) sign

/-- The rule for variables stands at the end of the table and takes every name. -/
theorem applies_iff_isName {rule : Rule} (member : rule ∈ table)
    (kind : rule.kind = .variableReference) (text : List Char) :
    rule.applies text = true ↔ IsName text := by
  have others : ∀ other ∈ table.dropLast, other.kind ≠ .variableReference := by decide
  have parts : table = table.dropLast ++ [ofPattern .variableReference namePattern] := rfl
  rw [parts, List.mem_append, List.mem_singleton] at member
  rcases member with earlier | rfl
  · exact absurd kind (others rule earlier)
  · exact occursIn_iff.trans (namePattern_iff text)

/-- A name is taken by the rule for variables, and by the rules that have a word for it. -/
theorem applies_name_iff {rule : Rule} (member : rule ∈ table) {text : List Char}
    (name : IsName text) : rule.applies text = true ↔
      rule.kind = .variableReference ∨ ∃ word ∈ rule.kind.ownNames, text = word.toList := by
  rcases table_takesNames rule member with kind | takes
  · exact iff_of_true ((applies_iff_isName member kind text).2 name) (.inl kind)
  · by_cases kind : rule.kind = .variableReference
    · exact iff_of_true ((applies_iff_isName member kind text).2 name) (.inl kind)
    · rw [takes text name, or_iff_right kind]

theorem isName_of_mem_claimedNames : ∀ word ∈ claimedNames, IsName word.toList := by
  simp only [IsName, ← namePattern_iff, ← occursIn_iff]
  decide

/-- Only the rule for variables takes a name that is none of the words. -/
theorem kind_of_applies_name {rule : Rule} (member : rule ∈ table) {text : List Char}
    (name : IsName text) (free : ∀ word ∈ claimedNames, text ≠ word.toList)
    (applies : rule.applies text = true) : rule.kind = .variableReference := by
  rcases (applies_name_iff member name).1 applies with kind | ⟨word, lone, same⟩
  · exact kind
  · exact absurd same (free word (rule.kind.ownNames_subset lone))

end Rule

namespace LineKind

/-! ## References to variables -/

/-- A rule that takes the text tells its kind, or none takes it. -/
theorem byRules_cases (rules : List Rule) (text : List Char) :
    (∃ rule ∈ rules, rule.applies text = true ∧ byRules rules text = rule.kind) ∨
      (∀ rule ∈ rules, rule.applies text ≠ true) ∧ byRules rules text = .statement := by
  rw [byRules]
  cases found : rules.find? (·.applies text) with
  | none => exact .inr ⟨List.find?_eq_none.1 found, rfl⟩
  | some rule =>
    have applies : rule.applies text = true := by simpa using List.find?_some found
    exact .inl ⟨rule, List.mem_of_find?_eq_some found, applies, rfl⟩

/-- A text is taken for a variable exactly where it is a name and none of the words. -/
theorem byRules_table_eq_variableReference_iff (text : List Char) :
    byRules Rule.table text = .variableReference ↔
      IsName text ∧ ∀ word ∈ claimedNames, text ≠ word.toList := by
  rcases byRules_cases Rule.table text with ⟨rule, member, applies, told⟩ | ⟨none, told⟩
  · rw [told]
    constructor
    · intro kind
      refine ⟨(Rule.applies_iff_isName member kind text).1 applies, ?_⟩
      rintro word claimed rfl
      have others : ∀ word ∈ claimedNames,
          byRules Rule.table word.toList ≠ .variableReference := by decide
      exact others word claimed (told.trans kind)
    · rintro ⟨name, free⟩
      exact Rule.kind_of_applies_name member name free applies
  · rw [told]
    refine iff_of_false nofun ?_
    rintro ⟨name, -⟩
    have last : Rule.ofPattern .variableReference Rule.namePattern ∈ Rule.table := by
      simp [Rule.table]
    exact none _ last ((Rule.applies_iff_isName last rfl text).2 name)

/-- A line is a reference to a variable exactly where its text without the white space at its ends
is a name and none of eight words; and of all rules just the one for variables takes such a name,
also where it holds one of these words or begins with it, or is a keyword that other lines open
with. -/
theorem ofLine_eq_variableReference_iff (line : String) :
    (LineKind.ofLine line = .variableReference ↔
      ∃ text, Text.Stripped line.toList text ∧ IsName text ∧
        ∀ word ∈ claimedNames, text ≠ word.toList) ∧
    ∀ text, IsName text → (∀ word ∈ claimedNames, text ≠ word.toList) →
      ∀ rule ∈ Rule.table, rule.applies text = true ↔ rule.kind = .variableReference := by
  constructor
  · rw [ofLine, byRules_table_eq_variableReference_iff]
    simp only [Text.stripped_iff, exists_eq_left]
  · intro text name free rule member
    constructor
    · exact Rule.kind_of_applies_name member name free
    · exact fun kind => (Rule.applies_iff_isName member kind text).2 name

/-- A name that begins with one of the words and holds another. -/
theorem ofLine_eq_variableReference_returned :
    LineKind.ofLine " return_or_é9\t" = .variableReference ∧ IsName "return_or_é9".toList ∧
      ∀ rule ∈ Rule.table, rule.applies "return_or_é9".toList = true ↔
        rule.kind = .variableReference := by
  have inside : Wordy "eturn_or_é9".toList := by decide +kernel
  have name : IsName "return_or_é9".toList := ⟨'r', "eturn_or_é9".toList, rfl, by decide, inside⟩
  have free : ∀ word ∈ claimedNames, "return_or_é9".toList ≠ word.toList := by decide
  obtain ⟨reference, rules⟩ := ofLine_eq_variableReference_iff " return_or_é9\t"
  refine ⟨reference.2 ⟨_, Text.stripped_iff.2 ?_, name, free⟩, name, rules _ name free⟩
  decide

end LineKind

end Tutor
