import Tutor.Proofs.Explain.Wording

/-!
Where the patterns with brackets occur, said of the places of the brackets.

What a pattern covers may begin and end in many ways. Once one character of it is fixed that is
written out, such as an opening bracket, the two sides no longer depend on each other: something has
to end right before that place, and something has to begin right behind it
(`Regular.matches_mark_iff`). On each side the choice of a shortest or longest run falls away, and a
condition on characters is left (`Rule.brackets_occur`).
-/

namespace Tutor

/-! ## Around a mark -/

namespace Regular

/-- A run made of one text of each language in turn stands at the end. -/
def EndsWith (pieces : List (Language Char)) (text : List Char) : Prop :=
  ∃ run ∈ pieces.prod, run <:+ text

/-- A run made of one text of each language in turn stands at the start. -/
def BeginsWith (pieces : List (Language Char)) (text : List Char) : Prop :=
  ∃ run ∈ pieces.prod, run <+: text

variable {pieces front back : List (Language Char)} {piece : Language Char} {test : Char → Bool}
  {mark opened closed : String} {c o : Char} {text run : List Char}

/-- A match that holds a written character has one of its places as a middle, and the two sides of
that place match apart from each other. -/
theorem matches_mark_iff (same : mark.toList = [c]) :
    Matches anywhere (front ++ written mark :: back) anywhere text ↔
      ∃ before behind, text = before ++ c :: behind ∧ EndsWith front before ∧
        BeginsWith back behind := by
  rw [Matches, List.prod_append, List.prod_cons]
  constructor
  · intro found
    obtain ⟨outer, _, rest, whole, -, member, -⟩ := found
    obtain ⟨first, isFront, _, others, rfl⟩ := Language.mem_mul.mp member
    obtain ⟨_, isMark, last, isBack, rfl⟩ := Language.mem_mul.mp others
    cases isMark
    refine ⟨outer ++ first, last ++ rest, ?_, ?_, ?_⟩
    · rw [whole, same]
      simp
    · exact ⟨first, isFront, List.suffix_append outer first⟩
    · exact ⟨last, isBack, List.prefix_append last rest⟩
  · intro found
    obtain ⟨_, _, whole, ⟨first, isFront, outer, rfl⟩, last, isBack, rest, rfl⟩ := found
    have isMark : [c] ∈ written mark := same.symm
    refine ⟨outer, first ++ ([c] ++ last), rest, ?_, trivial, ?_, trivial⟩
    · rw [whole]
      simp
    · exact Language.append_mem_mul isFront (Language.append_mem_mul isMark isBack)

theorem mem_someRun_iff : run ∈ someRun test ↔ run ≠ [] ∧ ∀ c ∈ run, test c = true := by
  rw [someRun, Language.mem_mul]
  constructor
  · intro member
    obtain ⟨_, ⟨first, rfl, passes⟩, rest, others, rfl⟩ := member
    refine ⟨List.cons_ne_nil first rest, ?_⟩
    exact List.forall_mem_cons.mpr ⟨passes, mem_anyRun_iff.mp others⟩
  · intro told
    obtain ⟨filled, pass⟩ := told
    obtain ⟨first, rest, rfl⟩ := List.exists_cons_of_ne_nil filled
    obtain ⟨passes, others⟩ := List.forall_mem_cons.mp pass
    exact ⟨[first], ⟨first, rfl, passes⟩, rest, mem_anyRun_iff.mpr others, rfl⟩

theorem mem_anyRun_ne_iff : run ∈ anyRun (· != c) ↔ c ∉ run := by
  rw [mem_anyRun_iff]
  simp only [bne_iff_ne]
  constructor
  · intro others member
    exact others c member rfl
  · intro absent d member same
    exact absent (same ▸ member)

theorem mem_someRun_ne_iff : run ∈ someRun (· != c) ↔ run ≠ [] ∧ c ∉ run := by
  rw [mem_someRun_iff, ← mem_anyRun_iff, mem_anyRun_ne_iff]

/-! ### The side before -/

theorem endsWith_nil (text : List Char) : EndsWith [] text :=
  ⟨[], Language.nil_mem_one, List.nil_suffix⟩

/-- The last piece can be taken off the end. -/
theorem endsWith_concat_iff :
    EndsWith (pieces ++ [piece]) text ↔
      ∃ before part, text = before ++ part ∧ part ∈ piece ∧ EndsWith pieces before := by
  rw [EndsWith, List.prod_append, List.prod_singleton]
  constructor
  · intro ends
    obtain ⟨_, member, outer, rfl⟩ := ends
    obtain ⟨run, inside, part, isPart, rfl⟩ := Language.mem_mul.mp member
    refine ⟨outer ++ run, part, (List.append_assoc ..).symm, isPart, run, inside, ?_⟩
    exact List.suffix_append outer run
  · intro ends
    obtain ⟨_, part, rfl, isPart, run, inside, outer, rfl⟩ := ends
    refine ⟨run ++ part, Language.append_mem_mul inside isPart, outer, ?_⟩
    exact (List.append_assoc ..).symm

/-- Of a run at the end only the last character is needed. -/
theorem endsWith_someRun_iff :
    EndsWith [someRun test] text ↔ ∃ before c, text = before ++ [c] ∧ test c = true := by
  rw [EndsWith, List.prod_singleton]
  constructor
  · intro ends
    obtain ⟨run, member, outer, rfl⟩ := ends
    obtain ⟨filled, pass⟩ := mem_someRun_iff.mp member
    rcases List.eq_nil_or_concat run with empty | ⟨inner, last, whole⟩
    · exact absurd empty filled
    · rw [List.concat_eq_append] at whole
      subst whole
      refine ⟨outer ++ inner, last, (List.append_assoc ..).symm, ?_⟩
      exact pass last (List.mem_append_right inner List.mem_cons_self)
  · intro ends
    obtain ⟨before, c, rfl, passes⟩ := ends
    have single : [c] ∈ someRun test :=
      mem_someRun_iff.mpr ⟨List.cons_ne_nil c [], List.forall_mem_singleton.mpr passes⟩
    exact ⟨[c], single, List.suffix_append before [c]⟩

/-! ### The side behind -/

theorem beginsWith_nil (text : List Char) : BeginsWith [] text :=
  ⟨[], Language.nil_mem_one, List.nil_prefix⟩

/-- A piece up to a written character. -/
theorem beginsWith_mark_iff (same : mark.toList = [c]) :
    BeginsWith [piece, written mark] text ↔
      ∃ inner rest, text = inner ++ c :: rest ∧ inner ∈ piece := by
  rw [BeginsWith, List.prod_cons, List.prod_singleton]
  constructor
  · intro begins
    obtain ⟨_, member, rest, rfl⟩ := begins
    obtain ⟨inner, inside, _, isMark, rfl⟩ := Language.mem_mul.mp member
    cases isMark
    refine ⟨inner, rest, ?_, inside⟩
    rw [same, List.append_assoc, List.singleton_append]
  · intro begins
    obtain ⟨inner, rest, rfl, inside⟩ := begins
    have isMark : [c] ∈ written mark := same.symm
    refine ⟨inner ++ [c], Language.append_mem_mul inside isMark, rest, ?_⟩
    rw [List.append_assoc, List.singleton_append]

/-- Two written characters with a piece between them. -/
theorem matches_between_iff (opens : opened.toList = [o]) (closes : closed.toList = [c]) :
    Matches anywhere (front ++ [written opened, piece, written closed]) anywhere text ↔
      ∃ before inner behind, text = before ++ o :: (inner ++ c :: behind) ∧ EndsWith front before ∧
        inner ∈ piece := by
  rw [matches_mark_iff opens]
  simp only [beginsWith_mark_iff closes]
  constructor
  · intro found
    obtain ⟨before, _, whole, ends, inner, behind, rfl, inside⟩ := found
    exact ⟨before, inner, behind, whole, ends, inside⟩
  · intro found
    obtain ⟨before, inner, behind, whole, ends, inside⟩ := found
    exact ⟨before, _, whole, ends, inner, behind, rfl, inside⟩

end Regular

/-! ## Places of brackets -/

open Regular

namespace Wording

/-- Right before, but for white space, stands a character of a word. -/
def BehindWord (before : List Char) : Prop :=
  ∃ front c blanks, before = front ++ c :: blanks ∧ Text.isWordChar c = true ∧
    ∀ b ∈ blanks, Text.isBlank b = true

/-- Right before, but for white space, stands a run of word characters, and before that a dot with a
character of a word in front of it. -/
def BehindMethod (before : List Char) : Prop :=
  ∃ front c name blanks, before = front ++ c :: '.' :: (name ++ blanks) ∧
    Text.isWordChar c = true ∧ name ≠ [] ∧ (∀ d ∈ name, Text.isWordChar d = true) ∧
    ∀ b ∈ blanks, Text.isBlank b = true

/-- An opening square bracket behind a word, and a closing one further on. -/
def HasIndex (text : List Char) : Prop :=
  ∃ before behind, text = before ++ '[' :: behind ∧ BehindWord before ∧ ']' ∈ behind

/-- Two brackets of one sort, with something between them and no line feed. -/
def HasFilledBrackets (text : List Char) : Prop :=
  ∃ pair ∈ [('[', ']'), ('\x7b', '\x7d'), ('(', ')')], ∃ before inner behind,
    text = before ++ pair.1 :: (inner ++ pair.2 :: behind) ∧ inner ≠ [] ∧ '\n' ∉ inner

/-- A parenthesis behind a word, and one that closes on the same line. -/
def HasCall (text : List Char) : Prop :=
  ∃ before inner behind, text = before ++ '(' :: (inner ++ ')' :: behind) ∧ BehindWord before ∧
    '\n' ∉ inner

/-- A parenthesis behind a name with a dot and a word before it. -/
def HasMethodCall (text : List Char) : Prop :=
  ∃ before behind, text = before ++ '(' :: behind ∧ BehindMethod before

variable {text : List Char}

theorem endsWith_word_iff :
    EndsWith [someRun Text.isWordChar, anyRun Text.isBlank] text ↔ BehindWord text := by
  change EndsWith ([someRun Text.isWordChar] ++ [anyRun Text.isBlank]) text ↔ _
  simp only [endsWith_concat_iff, endsWith_someRun_iff, mem_anyRun_iff]
  constructor
  · intro ends
    obtain ⟨_, blanks, rfl, blank, front, c, rfl, word⟩ := ends
    exact ⟨front, c, blanks, by simp, word, blank⟩
  · intro behind
    obtain ⟨front, c, blanks, rfl, word, blank⟩ := behind
    exact ⟨front ++ [c], blanks, by simp, blank, front, c, rfl, word⟩

theorem endsWith_method_iff :
    EndsWith [someRun Text.isWordChar, written ".", someRun Text.isWordChar, anyRun Text.isBlank]
      text ↔ BehindMethod text := by
  change EndsWith ((([someRun Text.isWordChar] ++ [written "."]) ++ [someRun Text.isWordChar]) ++
    [anyRun Text.isBlank]) text ↔ _
  simp only [endsWith_concat_iff, endsWith_someRun_iff, mem_anyRun_iff, mem_someRun_iff]
  constructor
  · intro ends
    obtain ⟨_, blanks, rfl, blank, _, name, rfl, ⟨filled, wordy⟩, dotted⟩ := ends
    obtain ⟨_, _, rfl, rfl, front, c, rfl, word⟩ := dotted
    exact ⟨front, c, name, blanks, by simp, word, filled, wordy, blank⟩
  · intro behind
    obtain ⟨front, c, name, blanks, rfl, word, filled, wordy, blank⟩ := behind
    refine ⟨front ++ c :: '.' :: name, blanks, by simp, blank, front ++ [c, '.'], name, by simp,
      ⟨filled, wordy⟩, ?_⟩
    exact ⟨front ++ [c], ['.'], by simp, rfl, front, c, rfl, word⟩

theorem hasGroup_iff {opened closed : String} {o c : Char} (opens : opened.toList = [o])
    (closes : closed.toList = [c]) :
    HasGroup opened closed text ↔ ∃ before inner behind,
      text = before ++ o :: (inner ++ c :: behind) ∧ inner ≠ [] ∧ '\n' ∉ inner := by
  have around := @matches_between_iff [] (someRun (· != '\n')) opened closed c o text opens closes
  simp only [endsWith_nil, mem_someRun_ne_iff, true_and] at around
  exact around

end Wording

/-! ## The patterns -/

namespace Rule

open Pattern Wording

variable {text : List Char}

/-- Of the brackets that close, the first one behind the opening one ends the index. -/
theorem indexPattern_hasIndex : indexPattern.Occurs text ↔ HasIndex text := by
  have around := @matches_between_iff [someRun Text.isWordChar, anyRun Text.isBlank]
    (anyRun (· != ']')) "[" "]" ']' '[' text rfl rfl
  simp only [endsWith_word_iff, mem_anyRun_ne_iff] at around
  apply ((indexPattern_iff text).trans around).trans
  constructor
  · intro found
    obtain ⟨before, inner, behind, whole, word, -⟩ := found
    exact ⟨before, _, whole, word, List.mem_append_right inner List.mem_cons_self⟩
  · intro found
    obtain ⟨before, _, whole, word, closes⟩ := found
    obtain ⟨inner, behind, rfl, first⟩ := List.eq_append_cons_of_mem closes
    exact ⟨before, inner, behind, whole, word, first⟩

theorem callPattern_hasCall : callPattern.Occurs text ↔ HasCall text := by
  have around := @matches_between_iff [someRun Text.isWordChar, anyRun Text.isBlank]
    (anyRun (· != '\n')) "(" ")" ')' '(' text rfl rfl
  simp only [endsWith_word_iff, mem_anyRun_ne_iff] at around
  exact (callPattern_iff text).trans around

theorem methodPattern_hasMethodCall : methodPattern.Occurs text ↔ HasMethodCall text := by
  have around := @matches_mark_iff [someRun Text.isWordChar, written ".", someRun Text.isWordChar,
    anyRun Text.isBlank] [] "(" '(' text rfl
  simp only [endsWith_method_iff, beginsWith_nil, and_true] at around
  exact (methodPattern_iff text).trans around

theorem groupPattern_hasFilledBrackets :
    groupPattern.Occurs text ↔ HasFilledBrackets text := by
  have square := @hasGroup_iff text "[" "]" '[' ']' rfl rfl
  have curly := @hasGroup_iff text "\x7b" "\x7d" '\x7b' '\x7d' rfl rfl
  have round := @hasGroup_iff text "(" ")" '(' ')' rfl rfl
  rw [groupPattern, occurs_either_iff, occurs_either_iff, filled_iff, filled_iff, filled_iff,
    square, curly, round, or_assoc, HasFilledBrackets]
  simp only [List.exists_mem_cons_iff, List.not_mem_nil, false_and, exists_false, or_false]

/-- Each of the four patterns with brackets occurs in a text just if brackets stand in it at such
places: an index, where a square bracket stands behind a word and one that closes comes later, also
on another line; a group, where two brackets of one sort have something between them on one line; a
call, where a parenthesis behind a word is closed on the same line; and a call of a method, where a
parenthesis stands behind a name with a dot and a word before it. -/
theorem brackets_occur (text : List Char) :
    (indexPattern.occursIn text = true ↔ HasIndex text) ∧
      (groupPattern.occursIn text = true ↔ HasFilledBrackets text) ∧
      (callPattern.occursIn text = true ↔ HasCall text) ∧
      (methodPattern.occursIn text = true ↔ HasMethodCall text) := by
  refine ⟨?index, ?group, ?call, ?method⟩
  case index => exact occursIn_iff.trans indexPattern_hasIndex
  case group => exact occursIn_iff.trans groupPattern_hasFilledBrackets
  case call => exact occursIn_iff.trans callPattern_hasCall
  case method => exact occursIn_iff.trans methodPattern_hasMethodCall

/-- The first parenthesis is not closed on its line, and the second is behind no word. -/
example : callPattern.occursIn "f(\n(g (x))".toList = true := by decide

end Rule

end Tutor
