import Mathlib.Computability.Language
import Tutor.Pattern.Search

/-!
Patterns as regular languages between two anchors.

A pattern without places covers exactly the texts of a regular language, whatever stands around
them (`Pattern.fits_iff_mem_language`). With a place in front of it or behind it, it occurs in a
text where the text has a run of that language and the anchors hold at its ends
(`Pattern.occurs_inOrder_iff`).
-/

namespace Tutor

open scoped Computability

namespace Regular

/-! ## Languages -/

/-- This text alone. -/
def written (s : String) : Language Char := {s.toList}

/-- One character that passes a test. -/
def single (test : Char → Bool) : Language Char := {run | ∃ c, run = [c] ∧ test c = true}

/-- Any number of characters that pass a test. -/
def anyRun (test : Char → Bool) : Language Char := (single test)∗

/-- Characters that pass a test, at least one. -/
def someRun (test : Char → Bool) : Language Char := single test * anyRun test

/-! ## Anchors -/

/-- A condition on a place in a text, given what stands before it and what stands behind it. -/
abbrev Anchor := List Char → List Char → Prop

/-- No condition. -/
def anywhere : Anchor := fun _ _ => True

/-- The start of the text. -/
def atStart : Anchor := fun before _ => before = []

/-- The end of the text. -/
def atEnd : Anchor := fun _ behind => behind = []

/-- The edge of a word: of the neighbours there just one is a word character. -/
def atEdge : Anchor := fun before behind =>
  ¬((∃ c ∈ before.getLast?, Text.isWordChar c = true) ↔
    ∃ c ∈ behind.head?, Text.isWordChar c = true)

/-- Somewhere in the text stands a run made of one text of each language in turn, and the anchors
hold at its ends. -/
def Matches (left : Anchor) (pieces : List (Language Char)) (right : Anchor) (text : List Char) :
    Prop :=
  ∃ before run behind, text = before ++ run ++ behind ∧ left before (run ++ behind) ∧
    run ∈ pieces.prod ∧ right (before ++ run) behind

end Regular

/-! ## Places -/

namespace Place

/-- The test on a place as an anchor. -/
def anchor : Place → Regular.Anchor
  | textStart => Regular.atStart
  | textEnd => Regular.atEnd
  | wordEdge => Regular.atEdge

/-- The anchor of a place, if there is one. -/
def anchor? : Option Place → Regular.Anchor
  | none => Regular.anywhere
  | some test => test.anchor

theorem holds_iff_anchor {test : Place} {before behind : List Char} :
    test.holds before.getLast? behind.head? = true ↔ test.anchor before behind := by
  cases test with
  | textStart => simp [holds, anchor, Regular.atStart]
  | textEnd => simp [holds, anchor, Regular.atEnd]
  | wordEdge =>
    have word (neighbour : Option Char) : neighbour.any Text.isWordChar = true ↔
        ∃ c ∈ neighbour, Text.isWordChar c = true := by
      cases neighbour <;> simp
    rw [holds, anchor, Regular.atEdge, ← word, ← word, bne_iff_ne, ne_eq, Bool.eq_iff_iff]

end Place

namespace Pattern

/-! ## The language of a pattern -/

/-- Whether a pattern has no places in it. -/
def isPlain : Pattern → Bool
  | nothing | one _ => true
  | place _ => false
  | seq p q | either p q => p.isPlain && q.isPlain
  | many p => p.isPlain

/-- The texts that a pattern covers, apart from its places. -/
def language : Pattern → Language Char
  | nothing | place _ => 1
  | one k => Regular.single k.contains
  | seq p q => p.language * q.language
  | either p q => p.language + q.language
  | many p => p.language∗

theorem mem_language_of_fits {p : Pattern} {b a : Option Char} {t : List Char}
    (fits : Fits p b t a) : t ∈ p.language := by
  induction fits with
  | nothing => exact Language.nil_mem_one
  | one member => exact ⟨_, rfl, member⟩
  | place => exact Language.nil_mem_one
  | seq _ _ first second => exact Language.append_mem_mul first second
  | left _ ih => exact .inl ih
  | right _ ih => exact .inr ih
  | stop => exact Language.nil_mem_kstar _
  | more _ _ first others =>
    rw [language, ← Language.one_add_self_mul_kstar_eq_kstar]
    exact .inr (Language.append_mem_mul first others)

theorem fits_of_mem_language {p : Pattern} (plain : p.isPlain = true) {b a : Option Char}
    {t : List Char} (member : t ∈ p.language) : Fits p b t a := by
  induction p generalizing b a t with
  | nothing =>
    cases member
    exact .nothing
  | one k =>
    obtain ⟨c, rfl, passes⟩ := member
    exact .one passes
  | place => cases plain
  | seq p q ihp ihq =>
    obtain ⟨plainFirst, plainSecond⟩ := Bool.and_eq_true_iff.1 plain
    obtain ⟨s, first, u, second, rfl⟩ := Language.mem_mul.1 member
    exact .seq (ihp plainFirst first) (ihq plainSecond second)
  | either p q ihp ihq =>
    obtain ⟨plainLeft, plainRight⟩ := Bool.and_eq_true_iff.1 plain
    rcases (Language.mem_add _ _ _).1 member with left | right
    · exact .left (ihp plainLeft left)
    · exact .right (ihq plainRight right)
  | many p ih =>
    obtain ⟨rounds, rfl, each⟩ := Language.mem_kstar.1 member
    clear member
    induction rounds generalizing b with
    | nil => exact .stop
    | cons round rounds more =>
      obtain ⟨first, others⟩ := List.forall_mem_cons.1 each
      exact .more (ih plain first) (more others)

/-- A pattern without places covers exactly the texts of its language, between any neighbours. -/
theorem fits_iff_mem_language {p : Pattern} (plain : p.isPlain = true) {b a : Option Char}
    {t : List Char} : Fits p b t a ↔ t ∈ p.language :=
  ⟨mem_language_of_fits, fits_of_mem_language plain⟩

theorem language_inOrder (ps : List Pattern) : (inOrder ps).language = (ps.map language).prod := by
  induction ps with
  | nil => rfl
  | cons p ps ih => rw [inOrder, language, ih, List.map_cons, List.prod_cons]

theorem language_literal (s : String) : (literal s).language = Regular.written s := by
  have characters (cs : List Char) :
      (inOrder (cs.map fun c => .one (.exactly c))).language = ({cs} : Set (List Char)) := by
    induction cs with
    | nil => rfl
    | cons c cs ih =>
      ext t
      rw [List.map_cons, inOrder, language, ih]
      constructor
      · intro member
        obtain ⟨_, ⟨d, rfl, same⟩, _, rfl, rfl⟩ := Language.mem_mul.1 member
        rw [beq_iff_eq.1 same]
        rfl
      · rintro rfl
        have first : [c] ∈ Regular.single (CharClass.exactly c).contains :=
          ⟨c, rfl, beq_self_eq_true c⟩
        exact Language.append_mem_mul first rfl
  exact characters s.toList

theorem isPlain_literal (s : String) : (literal s).isPlain = true := by
  have characters (cs : List Char) :
      (inOrder (cs.map fun c => .one (.exactly c))).isPlain = true := by
    induction cs with
    | nil => rfl
    | cons c cs ih => exact ih
  exact characters s.toList

/-! ## Places at the ends -/

section Ends

variable {test : Place} {ps : List Pattern} {before run behind : List Char}

theorem fits_place_front :
    Fits (inOrder (.place test :: ps)) before.getLast? run behind.head? ↔
      test.anchor before (run ++ behind) ∧ Fits (inOrder ps) before.getLast? run behind.head? := by
  rw [inOrder, fits_seq_iff, ← Place.holds_iff_anchor, List.head?_append]
  constructor
  · rintro ⟨u, v, rfl, front, rest⟩
    obtain ⟨rfl, holds⟩ := fits_place_iff.1 front
    exact ⟨holds, rest⟩
  · rintro ⟨holds, rest⟩
    exact ⟨[], run, rfl, fits_place_iff.2 ⟨rfl, holds⟩, rest⟩

theorem fits_place_back :
    Fits (inOrder (ps ++ [.place test])) before.getLast? run behind.head? ↔
      Fits (inOrder ps) before.getLast? run behind.head? ∧ test.anchor (before ++ run) behind := by
  induction ps generalizing before run with
  | nil =>
    rw [List.nil_append, fits_place_front, inOrder, fits_nothing_iff, and_comm]
    refine and_congr_right ?_
    rintro rfl
    rw [List.nil_append, List.append_nil]
  | cons p ps ih =>
    rw [List.cons_append, inOrder, inOrder, fits_seq_iff, fits_seq_iff]
    have lastOf (u : List Char) : u.getLast?.or before.getLast? = (before ++ u).getLast? :=
      List.getLast?_append.symm
    simp only [lastOf, ih]
    constructor
    · rintro ⟨u, v, rfl, first, others, holds⟩
      exact ⟨⟨u, v, rfl, first, others⟩, by rwa [List.append_assoc] at holds⟩
    · rintro ⟨⟨u, v, rfl, first, others⟩, holds⟩
      exact ⟨u, v, rfl, first, others, by rwa [List.append_assoc]⟩

end Ends

/-- A pattern of plain pieces, with a place in front of them or behind them, occurs exactly where a
run of their languages stands and the anchors hold. -/
theorem occurs_inOrder_iff (left right : Option Place) {ps : List Pattern}
    (plain : (inOrder ps).isPlain = true) (text : List Char) :
    Occurs (inOrder (left.toList.map .place ++ (ps ++ right.toList.map .place))) text ↔
      Regular.Matches (Place.anchor? left) (ps.map language) (Place.anchor? right) text := by
  have fits {before run behind : List Char} :
      Fits (inOrder (left.toList.map .place ++ (ps ++ right.toList.map .place)))
        before.getLast? run behind.head? ↔
      Place.anchor? left before (run ++ behind) ∧ run ∈ (ps.map language).prod ∧
        Place.anchor? right (before ++ run) behind := by
    rw [← language_inOrder,
      ← fits_iff_mem_language plain (b := before.getLast?) (a := behind.head?)]
    cases left with
    | none =>
      cases right with
      | none => simp [Place.anchor?, Regular.anywhere]
      | some right => simpa [Place.anchor?, Regular.anywhere] using fits_place_back
    | some left =>
      cases right with
      | none => simpa [Place.anchor?, Regular.anywhere] using fits_place_front
      | some right =>
        exact fits_place_front.trans (and_congr_right fun _ => fits_place_back)
  exact exists_congr fun before => exists_congr fun run => exists_congr fun behind =>
    and_congr_right fun _ => fits

section Shapes

variable {p : Pattern} {ps : List Pattern}

theorem occurs_iff (plain : p.isPlain = true) (text : List Char) :
    Occurs p text ↔ ∃ before run behind, text = before ++ run ++ behind ∧ run ∈ p.language :=
  exists_congr fun _ => exists_congr fun _ => exists_congr fun _ =>
    and_congr_right fun _ => fits_iff_mem_language plain

theorem occurs_anywhere_iff (plain : (inOrder ps).isPlain = true) (text : List Char) :
    Occurs (inOrder ps) text ↔
      Regular.Matches Regular.anywhere (ps.map language) Regular.anywhere text := by
  have general := occurs_inOrder_iff none none plain text
  rwa [Option.toList_none, List.map_nil, List.append_nil] at general

theorem occurs_atStart_iff (plain : (inOrder ps).isPlain = true) (text : List Char) :
    Occurs (inOrder (textStart :: ps)) text ↔
      Regular.Matches Regular.atStart (ps.map language) Regular.anywhere text := by
  have general := occurs_inOrder_iff (some .textStart) none plain text
  rwa [Option.toList_none, List.map_nil, List.append_nil] at general

theorem occurs_atEdge_iff (plain : (inOrder ps).isPlain = true) (text : List Char) :
    Occurs (inOrder (wordEdge :: ps)) text ↔
      Regular.Matches Regular.atEdge (ps.map language) Regular.anywhere text := by
  have general := occurs_inOrder_iff (some .wordEdge) none plain text
  rwa [Option.toList_none, List.map_nil, List.append_nil] at general

theorem occurs_word_iff (plain : p.isPlain = true) (text : List Char) :
    Occurs (inOrder [wordEdge, p, wordEdge]) text ↔
      Regular.Matches Regular.atEdge [p.language] Regular.atEdge text :=
  occurs_inOrder_iff (some .wordEdge) (some .wordEdge)
    (show (inOrder [p]).isPlain = true from Bool.and_eq_true_iff.2 ⟨plain, rfl⟩) text

theorem occurs_either_iff {q : Pattern} {text : List Char} :
    Occurs (.either p q) text ↔ Occurs p text ∨ Occurs q text := by
  simp only [Occurs, fits_either_iff, and_or_left, exists_or]

end Shapes

/-! ## Alternatives -/

theorem mem_language_oneOfTexts {s : String} {others : List String} {run : List Char} :
    run ∈ (oneOfTexts s others).language ↔ ∃ word ∈ s :: others, run ∈ Regular.written word := by
  have either (p : Pattern) :
      run ∈ (others.foldl (fun p other => .either p (literal other)) p).language ↔
        run ∈ p.language ∨ ∃ word ∈ others, run ∈ Regular.written word := by
    induction others generalizing p with
    | nil => simp
    | cons other others ih =>
      rw [List.foldl_cons, ih, language, language_literal, Language.mem_add, or_assoc]
      simp
  rw [oneOfTexts, either, language_literal, List.exists_mem_cons_iff]

end Pattern

namespace Regular

variable {left right : Anchor} {pieces : List (Language Char)} {text : List Char}

/-- A piece that is one of some words stands for one of them. -/
theorem matches_alternatives_iff {piece : Language Char} {words : List String}
    (alternatives : ∀ run, run ∈ piece ↔ ∃ word ∈ words, run ∈ written word) :
    Matches left (piece :: pieces) right text ↔
      ∃ word ∈ words, Matches left (written word :: pieces) right text := by
  simp only [Matches, List.prod_cons, Language.mem_mul]
  constructor
  · rintro ⟨before, run, behind, same, holdsLeft, ⟨front, first, rest, others, joined⟩, holdsRight⟩
    obtain ⟨word, member, first⟩ := (alternatives front).1 first
    exact ⟨word, member, before, run, behind, same, holdsLeft, ⟨front, first, rest, others, joined⟩,
      holdsRight⟩
  · rintro ⟨word, member, before, run, behind, same, holdsLeft,
      ⟨front, first, rest, others, joined⟩, holdsRight⟩
    exact ⟨before, run, behind, same, holdsLeft,
      ⟨front, (alternatives front).2 ⟨word, member, first⟩, rest, others, joined⟩, holdsRight⟩

/-- What stands at the start and begins with a word is a text that begins with it. -/
theorem Matches.begins {word : String}
    (found : Matches atStart (written word :: pieces) right text) : word.toList <+: text := by
  obtain ⟨_, run, behind, rfl, rfl, member, -⟩ := found
  rw [List.prod_cons] at member
  obtain ⟨_, rfl, rest, -, rfl⟩ := Language.mem_mul.1 member
  exact ⟨rest ++ behind, by simp⟩

/-- A run made of several pieces holds a part of each. -/
theorem exists_infix_of_mem_prod {run : List Char} (member : run ∈ pieces.prod)
    {piece : Language Char} (inside : piece ∈ pieces) : ∃ part ∈ piece, part <:+: run := by
  induction pieces generalizing run with
  | nil => cases inside
  | cons first others ih =>
    rw [List.prod_cons] at member
    obtain ⟨front, isFirst, rest, isRest, rfl⟩ := Language.mem_mul.1 member
    rcases List.mem_cons.1 inside with rfl | later
    · exact ⟨front, isFirst, (List.prefix_append front rest).isInfix⟩
    · obtain ⟨part, isPart, within⟩ := ih isRest later
      exact ⟨part, isPart, within.trans (List.suffix_append front rest).isInfix⟩

/-- A text that matches holds a part of each piece. -/
theorem Matches.exists_infix (found : Matches left pieces right text) {piece : Language Char}
    (inside : piece ∈ pieces) : ∃ part ∈ piece, part <:+: text := by
  obtain ⟨before, run, behind, rfl, -, member, -⟩ := found
  obtain ⟨part, isPart, within⟩ := exists_infix_of_mem_prod member inside
  exact ⟨part, isPart, within.trans (List.infix_append before run behind)⟩

theorem mem_anyRun_iff {test : Char → Bool} {run : List Char} :
    run ∈ anyRun test ↔ ∀ c ∈ run, test c = true := by
  rw [anyRun, Language.mem_kstar]
  constructor
  · rintro ⟨rounds, rfl, each⟩ c member
    obtain ⟨round, inside, memberRound⟩ := List.mem_flatten.1 member
    obtain ⟨d, rfl, passes⟩ := each round inside
    rwa [List.mem_singleton.1 memberRound]
  · intro each
    refine ⟨run.map fun c => [c], (List.flatMap_singleton' run).symm, fun round member => ?_⟩
    obtain ⟨c, inside, rfl⟩ := List.mem_map.1 member
    exact ⟨c, rfl, each c inside⟩

end Regular

end Tutor
