import Tutor.Text.Blank
import Tutor.Text.Word

/-!
Patterns: regular expressions with tests on the place between two characters.

`Pattern.Fits` says what a pattern means: which texts it covers, given the characters right
before and right after. `Pattern.Occurs` says that it covers some run of neighbouring characters
of a text. How an occurrence is found is the matter of `Tutor.Pattern.Search`.
-/

namespace Tutor

/-- A set of characters, as patterns use them. -/
inductive CharClass
  /-- One character alone. -/
  | exactly (c : Char)
  /-- The characters of a list. -/
  | among (cs : List Char)
  /-- All characters but one. -/
  | allBut (c : Char)
  /-- The characters of words, digits and the underscore included. -/
  | word
  /-- White space. -/
  | blank
  /-- What an ASCII name may begin with: a letter or the underscore. -/
  | nameStart
  deriving DecidableEq

/-- Whether a character is in the class. -/
def CharClass.contains : CharClass → Char → Bool
  | exactly d, c => c == d
  | among cs, c => cs.contains c
  | allBut d, c => c != d
  | word, c => Text.isWordChar c
  | blank, c => Text.isBlank c
  | nameStart, c => c.isAlpha || c == '_'

/-- A test on a place between two characters. -/
inductive Place
  /-- Nothing stands before. -/
  | textStart
  /-- Nothing stands after. -/
  | textEnd
  /-- Of the characters before and after exactly one belongs to a word. -/
  | wordEdge
  deriving DecidableEq

/-- Whether a place with these characters before and after it passes the test. -/
def Place.holds : Place → Option Char → Option Char → Bool
  | textStart, before, _ => before.isNone
  | textEnd, _, after => after.isNone
  | wordEdge, before, after => before.any Text.isWordChar != after.any Text.isWordChar

/-- A regular expression over characters and places. -/
inductive Pattern
  /-- Covers the empty text. -/
  | nothing
  /-- Covers one character of a class. -/
  | one (k : CharClass)
  /-- Covers the empty text at a place that passes a test. -/
  | place (test : Place)
  /-- Covers what the first covers, followed by what the second covers. -/
  | seq (first second : Pattern)
  /-- Covers what either covers. -/
  | either (left right : Pattern)
  /-- Covers any number of texts in a row that the inner pattern covers. -/
  | many (inner : Pattern)
  deriving DecidableEq

namespace Pattern

/-! ## Meaning -/

/-- `p.Fits before text after`: the pattern covers `text` where it stands between these
neighbours, `none` being the end of the whole text. -/
inductive Fits : Pattern → Option Char → List Char → Option Char → Prop
  | nothing {before after : Option Char} : Fits .nothing before [] after
  | one {k : CharClass} {before after : Option Char} {c : Char} :
    k.contains c = true → Fits (.one k) before [c] after
  | place {test : Place} {before after : Option Char} :
    test.holds before after = true → Fits (.place test) before [] after
  | seq {p q : Pattern} {before after : Option Char} {s t : List Char} :
    Fits p before s (t.head?.or after) → Fits q (s.getLast?.or before) t after →
    Fits (.seq p q) before (s ++ t) after
  | left {p q : Pattern} {before after : Option Char} {t : List Char} :
    Fits p before t after → Fits (.either p q) before t after
  | right {p q : Pattern} {before after : Option Char} {t : List Char} :
    Fits q before t after → Fits (.either p q) before t after
  | stop {p : Pattern} {before after : Option Char} : Fits (.many p) before [] after
  | more {p : Pattern} {before after : Option Char} {s t : List Char} :
    Fits p before s (t.head?.or after) → Fits (.many p) (s.getLast?.or before) t after →
    Fits (.many p) before (s ++ t) after

/-- The pattern covers some run of neighbouring characters of the text. -/
def Occurs (p : Pattern) (text : List Char) : Prop :=
  ∃ before run after, text = before ++ run ++ after ∧ p.Fits before.getLast? run after.head?

/-! ## What the parts of a pattern cover -/

theorem fits_nothing_iff {b a : Option Char} {t : List Char} : Fits .nothing b t a ↔ t = [] := by
  constructor
  · intro h; cases h; rfl
  · rintro rfl; exact .nothing

theorem fits_one_iff {k : CharClass} {b a : Option Char} {t : List Char} :
    Fits (.one k) b t a ↔ ∃ c, t = [c] ∧ k.contains c = true := by
  constructor
  · intro h
    cases h with
    | one member => exact ⟨_, rfl, member⟩
  · rintro ⟨c, rfl, member⟩; exact .one member

theorem fits_place_iff {test : Place} {b a : Option Char} {t : List Char} :
    Fits (.place test) b t a ↔ t = [] ∧ test.holds b a = true := by
  constructor
  · intro h
    cases h with
    | place holds => exact ⟨rfl, holds⟩
  · rintro ⟨rfl, holds⟩; exact .place holds

/-- A sequence covers a text that splits into one for each part. -/
theorem fits_seq_iff {p q : Pattern} {b a : Option Char} {t : List Char} :
    Fits (.seq p q) b t a ↔
      ∃ u v, t = u ++ v ∧ Fits p b u (v.head?.or a) ∧ Fits q (u.getLast?.or b) v a := by
  constructor
  · intro h
    cases h with
    | seq first second => exact ⟨_, _, rfl, first, second⟩
  · rintro ⟨u, v, rfl, first, second⟩; exact .seq first second

theorem fits_either_iff {p q : Pattern} {b a : Option Char} {t : List Char} :
    Fits (.either p q) b t a ↔ Fits p b t a ∨ Fits q b t a := by
  constructor
  · intro h
    cases h with
    | left h => exact .inl h
    | right h => exact .inr h
  · rintro (h | h)
    · exact .left h
    · exact .right h

/-- A repetition that covers a text with a first character begins with a round that takes it. -/
theorem fits_many_cons {p : Pattern} {b a : Option Char} {c : Char} {t : List Char}
    (h : Fits (.many p) b (c :: t) a) :
    ∃ u v, t = u ++ v ∧ Fits p b (c :: u) (v.head?.or a) ∧
      Fits (.many p) ((c :: u).getLast?.or b) v a := by
  generalize whole : c :: t = text at h
  generalize pattern : Pattern.many p = m at h
  induction h generalizing t with
  | stop => simp at whole
  | @more q b a u v first rest _ ih =>
    cases pattern
    cases u with
    | nil =>
      obtain ⟨u, v, split, one, others⟩ := ih (by simpa using whole) rfl
      exact ⟨u, v, split, by simpa using one, by simpa using others⟩
    | cons d u =>
      simp only [List.cons_append, List.cons.injEq] at whole
      obtain ⟨rfl, rfl⟩ := whole
      exact ⟨u, v, rfl, first, rest⟩
  | _ => cases pattern

/-! ## Ways to write patterns -/

/-- Covers the texts that are one piece after another, each covered by its pattern. -/
def inOrder : List Pattern → Pattern
  | [] => .nothing
  | p :: ps => .seq p (inOrder ps)

/-- Covers exactly the given text. -/
def literal (text : String) : Pattern := inOrder (text.toList.map fun c => .one (.exactly c))

/-- Covers one of the given characters. -/
def oneOf (text : String) : Pattern := .one (.among text.toList)

/-- Any run of blanks, the empty one included. -/
def blanks : Pattern := .many (.one .blank)

/-- A run of blanks with at least one. -/
def someBlanks : Pattern := .seq (.one .blank) blanks

/-- A run of word characters with at least one. -/
def someWord : Pattern := .seq (.one .word) (.many (.one .word))

/-- Any run of characters on one line. -/
def withinLine : Pattern := .many (.one (.allBut '\n'))

/-- Covers one of the given texts. -/
def oneOfTexts (text : String) (others : List String) : Pattern :=
  others.foldl (fun p other => .either p (literal other)) (literal text)

/-- The start of the text. -/
def textStart : Pattern := .place .textStart

/-- The end of the text. -/
def textEnd : Pattern := .place .textEnd

/-- The edge of a word. -/
def wordEdge : Pattern := .place .wordEdge

end Pattern

end Tutor
