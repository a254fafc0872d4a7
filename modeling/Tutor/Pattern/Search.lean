import Tutor.Pattern.Basic

/-!
Deciding whether a pattern occurs in a text, in one pass over the text.

While the pass goes on it keeps the patterns of which one must cover what follows, for an
occurrence that has begun further left. `Pattern.residuals` gives those that one more character
leaves of a pattern. `Pattern.occursIn_iff` says that the pass answers what it should.
-/

namespace Tutor.Pattern

/-- Whether the pattern covers the empty text between two neighbours. -/
def coversEmpty : Pattern → Option Char → Option Char → Bool
  | nothing, _, _ => true
  | one _, _, _ => false
  | place test, before, after => test.holds before after
  | seq p q, before, after => p.coversEmpty before after && q.coversEmpty before after
  | either p q, before, after => p.coversEmpty before after || q.coversEmpty before after
  | many _, _, _ => true

/-- One pattern followed by another, leaving out the first where it covers just the empty text. -/
def followedBy : Pattern → Pattern → Pattern
  | nothing, q => q
  | p, q => seq p q

/-- The patterns that are left when the character `c`, standing after `before`, is taken off the
front: the pattern covers `c :: text` there exactly when one of them covers `text` behind `c`. -/
def residuals (before : Option Char) (c : Char) : Pattern → List Pattern
  | nothing => []
  | one k => if k.contains c then [nothing] else []
  | place _ => []
  | seq p q =>
    (p.residuals before c).map (·.followedBy q) ++
      (if p.coversEmpty before (some c) then q.residuals before c else [])
  | either p q => p.residuals before c ++ q.residuals before c
  | many p => (p.residuals before c).map (·.followedBy (many p))

/-- Adds the members of a list that are not there yet. -/
def mergeNew (xs : List Pattern) : List Pattern → List Pattern
  | [] => xs
  | p :: ps => if p ∈ xs then mergeNew xs ps else mergeNew (p :: xs) ps

/-- Whether one of the patterns `begun` covers a beginning of the text that stands after `before`,
or `p` occurs in that text. -/
def searchFrom (p : Pattern) (begun : List Pattern) (before : Option Char) : List Char → Bool
  | [] => (p :: begun).any (·.coversEmpty before none)
  | c :: text =>
    (p :: begun).any (·.coversEmpty before (some c)) ||
      searchFrom p (mergeNew [] ((p :: begun).flatMap (·.residuals before c))) (some c) text

/-- Whether the pattern occurs in the text. -/
def occursIn (p : Pattern) (text : List Char) : Bool := searchFrom p [] none text

/-! ## The search is exact -/

/-- The test for the empty text is exact. -/
theorem coversEmpty_iff {p : Pattern} {b a : Option Char} :
    p.coversEmpty b a = true ↔ Fits p b [] a := by
  induction p with
  | nothing => simp [coversEmpty, fits_nothing_iff]
  | one k => simp [coversEmpty, fits_one_iff]
  | place test => simp [coversEmpty, fits_place_iff]
  | seq p q ihp ihq =>
    simp only [coversEmpty, Bool.and_eq_true, ihp, ihq, fits_seq_iff]
    constructor
    · rintro ⟨hp, hq⟩; exact ⟨[], [], rfl, by simpa using hp, by simpa using hq⟩
    · rintro ⟨u, v, split, hp, hq⟩
      obtain ⟨rfl, rfl⟩ := List.append_eq_nil_iff.1 split.symm
      exact ⟨by simpa using hp, by simpa using hq⟩
  | either p q ihp ihq => simp [coversEmpty, fits_either_iff, ihp, ihq]
  | many p _ => simpa [coversEmpty] using Fits.stop

/-- Leaving out a part that covers just the empty text changes nothing. -/
theorem fits_followedBy_iff {p q : Pattern} {b a : Option Char} {t : List Char} :
    Fits (p.followedBy q) b t a ↔ Fits (.seq p q) b t a := by
  cases p with
  | nothing =>
    simp only [followedBy, fits_seq_iff, fits_nothing_iff]
    constructor
    · intro h; exact ⟨[], t, rfl, rfl, by simpa using h⟩
    · rintro ⟨u, v, rfl, rfl, h⟩; simpa using h
  | _ => rfl

/-- A pattern covers a text exactly when one of its residuals covers the text without its first
character. -/
theorem fits_cons_iff {p : Pattern} {b a : Option Char} {c : Char} {t : List Char} :
    Fits p b (c :: t) a ↔ ∃ r ∈ p.residuals b c, Fits r (some c) t a := by
  induction p generalizing t a with
  | nothing => simp [residuals, fits_nothing_iff]
  | one k =>
    by_cases member : k.contains c = true
    · simp only [residuals, fits_one_iff, member, if_true, List.mem_singleton, exists_eq_left,
        fits_nothing_iff, List.cons.injEq]
      exact ⟨fun ⟨_, same, _⟩ => same.2, fun done => ⟨c, ⟨rfl, done⟩, member⟩⟩
    · simp only [residuals, fits_one_iff, member, List.cons.injEq]
      constructor
      · rintro ⟨d, ⟨rfl, _⟩, other⟩; exact absurd other member
      · simp
  | place test => simp [residuals, fits_place_iff]
  | seq p q ihp ihq =>
    simp only [residuals, List.mem_append, List.mem_map]
    constructor
    · rw [fits_seq_iff]
      rintro ⟨u, v, split, first, second⟩
      cases u with
      | nil =>
        rw [List.nil_append] at split
        subst split
        have empty : p.coversEmpty b (some c) = true := coversEmpty_iff.2 (by simpa using first)
        obtain ⟨r, member, fits⟩ := ihq.1 (by simpa using second)
        exact ⟨r, .inr (by simpa [empty] using member), fits⟩
      | cons d u =>
        obtain ⟨rfl, rfl⟩ := List.cons.inj split
        obtain ⟨r, member, fits⟩ := ihp.1 first
        exact ⟨_, .inl ⟨r, member, rfl⟩,
          fits_followedBy_iff.2 (.seq fits (by simpa [List.getLast?_cons] using second))⟩
    · rintro ⟨_, ⟨r, member, rfl⟩ | member, fits⟩
      · obtain ⟨u, v, rfl, first, second⟩ := fits_seq_iff.1 (fits_followedBy_iff.1 fits)
        exact .seq (ihp.2 ⟨r, member, first⟩) (by simpa [List.getLast?_cons] using second)
      · by_cases empty : p.coversEmpty b (some c) = true
        · rw [if_pos empty] at member
          have second := ihq.2 ⟨_, member, fits⟩
          exact .seq (s := []) (by simpa using coversEmpty_iff.1 empty) (by simpa using second)
        · simp [empty] at member
  | either p q ihp ihq => simp [residuals, fits_either_iff, ihp, ihq, or_and_right, exists_or]
  | many p ih =>
    simp only [residuals, List.mem_map]
    constructor
    · intro h
      obtain ⟨u, v, rfl, first, rest⟩ := fits_many_cons h
      obtain ⟨r, member, fits⟩ := ih.1 first
      exact ⟨_, ⟨r, member, rfl⟩,
        fits_followedBy_iff.2 (.seq fits (by simpa [List.getLast?_cons] using rest))⟩
    · rintro ⟨_, ⟨r, member, rfl⟩, fits⟩
      obtain ⟨u, v, rfl, first, rest⟩ := fits_seq_iff.1 (fits_followedBy_iff.1 fits)
      exact .more (ih.2 ⟨r, member, first⟩) (by simpa [List.getLast?_cons] using rest)

theorem mem_mergeNew {q : Pattern} {ps : List Pattern} (xs : List Pattern) :
    q ∈ mergeNew xs ps ↔ q ∈ xs ∨ q ∈ ps := by
  induction ps generalizing xs with
  | nil => simp [mergeNew]
  | cons p ps ih =>
    unfold mergeNew
    split <;> simp only [ih, List.mem_cons] <;> grind

/-- The pass finds what one of the patterns begun covers from here on, and what the pattern covers
further right. -/
theorem searchFrom_iff {p : Pattern} {begun : List Pattern} {b : Option Char} {t : List Char} :
    searchFrom p begun b t = true ↔
      (∃ q ∈ begun, ∃ u v, t = u ++ v ∧ Fits q b u v.head?) ∨
      ∃ l u v, t = l ++ u ++ v ∧ Fits p (l.getLast?.or b) u v.head? := by
  induction t generalizing begun b with
  | nil =>
    simp only [searchFrom, List.any_eq_true, coversEmpty_iff]
    constructor
    · rintro ⟨q, member, fits⟩
      rcases List.mem_cons.1 member with rfl | member
      · exact .inr ⟨[], [], [], rfl, by simpa using fits⟩
      · exact .inl ⟨q, member, [], [], rfl, by simpa using fits⟩
    · rintro (⟨q, member, u, v, split, fits⟩ | ⟨l, u, v, split, fits⟩)
      · obtain ⟨rfl, rfl⟩ := List.append_eq_nil_iff.1 split.symm
        exact ⟨q, List.mem_cons_of_mem _ member, by simpa using fits⟩
      · obtain ⟨before, rfl⟩ := List.append_eq_nil_iff.1 split.symm
        obtain ⟨rfl, rfl⟩ := List.append_eq_nil_iff.1 before
        exact ⟨p, List.mem_cons_self, by simpa using fits⟩
  | cons c t ih =>
    simp only [searchFrom, Bool.or_eq_true, List.any_eq_true, coversEmpty_iff, ih, mem_mergeNew,
      List.mem_flatMap]
    constructor
    · rintro (⟨q, member, fits⟩ | ⟨r, none | ⟨q, member, residual⟩, u, v, rfl, fits⟩ |
        ⟨l, u, v, rfl, fits⟩)
      · rcases List.mem_cons.1 member with rfl | member
        · exact .inr ⟨[], [], c :: t, rfl, by simpa using fits⟩
        · exact .inl ⟨q, member, [], c :: t, rfl, by simpa using fits⟩
      · simp at none
      · have whole := fits_cons_iff.2 ⟨r, residual, fits⟩
        rcases List.mem_cons.1 member with rfl | member
        · exact .inr ⟨[], c :: u, v, rfl, by simpa using whole⟩
        · exact .inl ⟨q, member, c :: u, v, rfl, whole⟩
      · exact .inr ⟨c :: l, u, v, rfl, by simpa [List.getLast?_cons] using fits⟩
    · rintro (⟨q, member, u, v, split, fits⟩ | ⟨l, u, v, split, fits⟩)
      · cases u with
        | nil =>
          rw [List.nil_append] at split
          subst split
          exact .inl ⟨q, List.mem_cons_of_mem _ member, by simpa using fits⟩
        | cons d u =>
          obtain ⟨rfl, rfl⟩ := List.cons.inj split
          obtain ⟨r, residual, fits⟩ := fits_cons_iff.1 fits
          exact .inr (.inl ⟨r, .inr ⟨q, List.mem_cons_of_mem _ member, residual⟩, u, v, rfl, fits⟩)
      · cases l with
        | cons d l =>
          obtain ⟨rfl, rfl⟩ := List.cons.inj split
          exact .inr (.inr ⟨l, u, v, rfl, by simpa [List.getLast?_cons] using fits⟩)
        | nil =>
          cases u with
          | nil =>
            simp only [List.nil_append] at split
            subst split
            exact .inl ⟨p, List.mem_cons_self, by simpa using fits⟩
          | cons d u =>
            obtain ⟨rfl, rfl⟩ := List.cons.inj split
            obtain ⟨r, residual, fits⟩ := fits_cons_iff.1 fits
            exact .inr (.inl ⟨r, .inr ⟨p, List.mem_cons_self, by simpa using residual⟩, u, v, rfl,
              fits⟩)

/-- The search answers whether the pattern occurs. -/
theorem occursIn_iff {p : Pattern} {t : List Char} : p.occursIn t = true ↔ p.Occurs t := by
  simp [occursIn, searchFrom_iff, Occurs]

end Tutor.Pattern
