import Mathlib.Data.List.Infix
import Mathlib.Order.WellFounded
import Tutor.Proofs.Text.Find

/-!
The first place of a text that is of some kind, and the shortest text between two others.

`leftmost` answers at the first place that has an answer (`leftmost_eq_some_iff`), and
`shortestUpTo` finds the shortest text up to a mark (`shortestUpTo_eq_some_iff`). A mark whose first
character stands nowhere else in it does not overlap itself (`HeadAlone.apart`), so it is not found
across the start of another mark (`FirstPlace.of_mark`).
-/

namespace Tutor.Text

/-! ## Places -/

/-- Some place of a text, that is all that follows from it on, is of this kind. -/
def Somewhere (kind : List Char → Prop) (text : List Char) : Prop :=
  ∃ rest, rest <:+ text ∧ kind rest

/-- What follows from the first place of this kind on: no other such place stands before it. -/
structure FirstPlace (kind : List Char → Prop) (text rest : List Char) : Prop where
  within : rest <:+ text
  here : kind rest
  first : ∀ other, other <:+ text → kind other → other <:+ rest

variable {kind : List Char → Prop} {text rest : List Char}

theorem FirstPlace.of_here (here : kind text) : FirstPlace kind text text :=
  ⟨List.suffix_refl text, here, fun _ within _ => within⟩

/-- A first character at which there is no such place is passed over. -/
theorem FirstPlace.cons_iff {c : Char} (absent : ¬ kind (c :: text)) :
    FirstPlace kind (c :: text) rest ↔ FirstPlace kind text rest := by
  have later {other : List Char} (is : kind other) : other <:+ c :: text ↔ other <:+ text := by
    rw [List.suffix_cons_iff]
    refine or_iff_right fun whole => absent ?_
    rwa [← whole]
  constructor
  · intro place
    refine ⟨(later place.here).1 place.within, place.here, fun other within is => ?_⟩
    exact place.first other ((later is).2 within) is
  · intro place
    refine ⟨(later place.here).2 place.within, place.here, fun other within is => ?_⟩
    exact place.first other ((later is).1 within) is

section Leftmost

variable {β : Type} {look : List Char → Option β} {answer : β}

/-- The leftmost answer is the one at the first place that has one; no later place is tried. -/
theorem leftmost_eq_some_iff (exact : ∀ text, look text ≠ none ↔ kind text) :
    leftmost look text = some answer ↔
      ∃ rest, FirstPlace kind text rest ∧ look rest = some answer := by
  have is {rest : List Char} (answers : look rest = some answer) : kind rest :=
    (exact rest).1 fun none => by cases none.symm.trans answers
  induction text with
  | nil =>
    rw [leftmost]
    constructor
    · intro answers
      exact ⟨[], .of_here (is answers), answers⟩
    · intro ⟨rest, place, answers⟩
      rwa [List.suffix_nil.1 place.within] at answers
  | cons c text ih =>
    rw [leftmost]
    split
    · rename_i found here
      have whole : kind (c :: text) := (exact _).1 fun none => by cases none.symm.trans here
      constructor
      · intro same
        exact ⟨c :: text, .of_here whole, here.trans same⟩
      · intro ⟨rest, place, answers⟩
        have all := place.first (c :: text) (List.suffix_refl _) whole
        obtain rfl := place.within.eq_of_length_le all.length_le
        exact here.symm.trans answers
    · rename_i none
      have absent : ¬ kind (c :: text) := fun is => (exact _).2 is none
      simp only [ih, FirstPlace.cons_iff absent]

/-- There is no answer exactly where no place has one. -/
theorem leftmost_eq_none_iff (exact : ∀ text, look text ≠ none ↔ kind text) :
    leftmost look text = none ↔ ¬ Somewhere kind text := by
  induction text with
  | nil =>
    rw [leftmost, Somewhere]
    simp only [List.suffix_nil, exists_eq_left, ← exact, not_not]
  | cons c text ih =>
    have places : Somewhere kind (c :: text) ↔ kind (c :: text) ∨ Somewhere kind text := by
      simp only [Somewhere, List.suffix_cons_iff, or_and_right, exists_or, exists_eq_left]
    rw [leftmost, places, not_or, ← ih, ← exact, not_not]
    split
    · rename_i found here
      exact iff_of_false nofun fun none => by cases none.1.symm.trans here
    · rename_i none
      exact (and_iff_right none).symm

end Leftmost

/-! ## Marks that do not overlap -/

/-- The first character of a mark stands nowhere else in it. -/
def HeadAlone (mark : List Char) : Prop := ∃ first rest, mark = first :: rest ∧ first ∉ rest

/-- Such a mark does not overlap itself: two of its occurrences are one, or the first ends before
the second begins. -/
theorem HeadAlone.apart {mark inner back behind : List Char} (alone : HeadAlone mark)
    (split : inner ++ (mark ++ behind) = mark ++ back) :
    inner = [] ∨ ∃ between, inner = mark ++ between ∧ back = between ++ (mark ++ behind) := by
  obtain ⟨first, others, same, alone⟩ := alone
  rcases List.append_eq_append_iff.1 split with ⟨overlap, cut, left⟩ | ⟨overlap, cut, left⟩
  · cases inner with
    | nil => exact .inl rfl
    | cons c inner =>
      rw [same, List.cons_append, List.cons_eq_cons] at cut
      cases overlap with
      | nil =>
        rw [List.append_nil] at cut
        refine .inr ⟨[], ?_, left.symm⟩
        rw [same, List.append_nil, cut.1, cut.2]
      | cons d overlap =>
        -- The second mark would begin within the first one.
        rw [same, List.cons_append, List.cons_append, List.cons_eq_cons] at left
        rw [cut.2, left.1] at alone
        exact absurd (List.mem_append_right inner List.mem_cons_self) alone
  · exact .inr ⟨overlap, cut, left⟩

/-- A place within two joined texts is one in the second, or begins before it. -/
theorem suffix_append_cases {before rest other : List Char} (within : other <:+ before ++ rest) :
    other <:+ rest ∨ ∃ inner, inner <:+ before ∧ inner ≠ [] ∧ other = inner ++ rest := by
  rcases List.suffix_or_suffix_of_suffix within (List.suffix_append before rest) with
    inside | ⟨inner, split⟩
  · exact .inl inside
  · rcases eq_or_ne inner [] with none | some
    · left
      rw [← split, none]
      exact List.suffix_refl rest
    · rw [← split, List.suffix_append_inj_of_length_eq rfl] at within
      exact .inr ⟨inner, within.1, some, split.symm⟩

/-- Where all places of a kind begin with such a mark, a place is the first of them unless one
begins with a mark that ends before it. -/
theorem FirstPlace.of_mark {mark before behind : List Char} (alone : HeadAlone mark)
    (marked : ∀ text, kind text → mark <+: text) (here : kind (mark ++ behind))
    (absent : ∀ between, mark ++ between <:+ before →
      ¬ kind (mark ++ (between ++ (mark ++ behind)))) :
    FirstPlace kind (before ++ (mark ++ behind)) (mark ++ behind) := by
  refine ⟨List.suffix_append before _, here, fun other within is => ?_⟩
  rcases suffix_append_cases within with inside | ⟨inner, inBefore, some, split⟩
  · exact inside
  · exfalso
    obtain ⟨back, starts⟩ := marked other is
    rcases alone.apart (split.symm.trans starts.symm) with none | ⟨between, same, -⟩
    · exact some none
    · rw [split, same, List.append_assoc] at is
      rw [same] at inBefore
      exact absent between inBefore is

/-- What begins with a text without this character begins so in front of the character. -/
theorem prefix_of_not_mem {c : Char} {mark before behind : List Char} (clean : c ∉ mark)
    (starts : mark <+: before ++ c :: behind) : mark <+: before := by
  obtain ⟨back, split⟩ := starts
  rcases List.append_eq_append_iff.1 split with ⟨overlap, same, -⟩ | ⟨overlap, same, left⟩
  · exact ⟨overlap, same.symm⟩
  · cases overlap with
    | nil => exact ⟨[], by rw [same, List.append_nil, List.append_nil]⟩
    | cons d overlap =>
      obtain ⟨rfl, -⟩ := List.cons_eq_cons.1 left
      exact absurd (same ▸ List.mem_append_right before List.mem_cons_self) clean

/-! ## Texts between two others -/

/-- A text begins with `name` between two others; `name` has at least one character, and all of it
stands on one line. -/
structure Enclosed (lead stop text name : List Char) : Prop where
  nonempty : name ≠ []
  oneLine : '\n' ∉ name
  stands : lead ++ (name ++ stop) <+: text

/-- The shortest text that is enclosed so. -/
structure Shortest (lead stop text name : List Char) : Prop extends
    Enclosed lead stop text name where
  shortest : ∀ other, Enclosed lead stop text other → name.length ≤ other.length

variable {lead stop name : List Char}

theorem Enclosed.mono {more : List Char} (enclosed : Enclosed lead stop text name)
    (starts : text <+: more) : Enclosed lead stop more name :=
  ⟨enclosed.nonempty, enclosed.oneLine, enclosed.stands.trans starts⟩

/-- What is enclosed by texts of one line ends before the next line begins. -/
theorem Enclosed.of_line {before behind : List Char} (leadClean : '\n' ∉ lead)
    (stopClean : '\n' ∉ stop) (enclosed : Enclosed lead stop (before ++ '\n' :: behind) name) :
    Enclosed lead stop before name := by
  have clean : '\n' ∉ lead ++ (name ++ stop) := by
    simp only [List.mem_append, not_or]
    exact ⟨leadClean, enclosed.oneLine, stopClean⟩
  exact ⟨enclosed.nonempty, enclosed.oneLine, prefix_of_not_mem clean enclosed.stands⟩

theorem Enclosed.exists_shortest (enclosed : Enclosed lead stop text name) :
    ∃ name, Shortest lead stop text name := by
  obtain ⟨least, is, least_le⟩ :=
    (measure List.length).wf.has_min {name | Enclosed lead stop text name} ⟨name, enclosed⟩
  exact ⟨least, is, fun other enclosed => Nat.le_of_not_lt (least_le other enclosed)⟩

theorem enclosed_append_iff :
    Enclosed lead stop (lead ++ rest) name ↔ Enclosed [] stop rest name := by
  constructor
  · intro enclosed
    have stands := (List.prefix_append_right_inj lead).1 enclosed.stands
    exact ⟨enclosed.nonempty, enclosed.oneLine, stands⟩
  · intro enclosed
    have stands := (List.prefix_append_right_inj lead).2 enclosed.stands
    exact ⟨enclosed.nonempty, enclosed.oneLine, stands⟩

theorem shortest_append_iff :
    Shortest lead stop (lead ++ rest) name ↔ Shortest [] stop rest name := by
  constructor
  · intro shortest
    refine ⟨enclosed_append_iff.1 shortest.toEnclosed, fun other enclosed => ?_⟩
    exact shortest.shortest other (enclosed_append_iff.2 enclosed)
  · intro shortest
    refine ⟨enclosed_append_iff.2 shortest.toEnclosed, fun other enclosed => ?_⟩
    exact shortest.shortest other (enclosed_append_iff.1 enclosed)

/-- The closing text does not stand within the shortest one, but for its first character. -/
theorem Shortest.not_infix_tail (shortest : Shortest lead stop text name) (closes : stop ≠ []) :
    ¬ stop <:+: name.tail := by
  intro ⟨front, back, split⟩
  obtain ⟨c, inner, rfl⟩ := List.exists_cons_of_ne_nil shortest.nonempty
  rw [List.tail_cons] at split
  subst split
  have whole : lead ++ (c :: front ++ stop) <+: text := by
    refine .trans ?_ shortest.stands
    simp [List.prefix_append_right_inj, List.append_assoc]
  have clean : '\n' ∉ c :: front := fun member => shortest.oneLine (by
    simp only [List.mem_cons, List.mem_append] at member ⊢
    tauto)
  have short := shortest.shortest (c :: front) ⟨List.cons_ne_nil c front, clean, whole⟩
  have some := List.length_pos_iff.2 closes
  simp only [List.length_cons, List.length_append] at short
  omega

/-- A text in which the closing one does not stand, but for its first character, is the shortest in
front of it. -/
theorem Shortest.of_not_infix_tail {behind : List Char} (alone : HeadAlone stop)
    (nonempty : name ≠ []) (oneLine : '\n' ∉ name) (absent : ¬ stop <:+: name.tail) :
    Shortest lead stop (lead ++ (name ++ (stop ++ behind))) name := by
  refine ⟨⟨nonempty, oneLine, ?_⟩, fun other enclosed => ?_⟩
  · simp only [List.prefix_append_right_inj, List.prefix_append]
  · by_contra shorter
    obtain ⟨back, split⟩ := (enclosed_append_iff.1 enclosed).stands
    rw [List.nil_append, List.append_assoc] at split
    obtain ⟨inner, same⟩ : other <+: name :=
      List.prefix_of_prefix_length_le ⟨_, split⟩ (List.prefix_append name _) (by omega)
    subst same
    rw [List.append_assoc, List.append_cancel_left_eq] at split
    rcases alone.apart split.symm with none | ⟨between, same, -⟩
    · rw [none, List.append_nil] at shorter
      exact shorter (Nat.le_refl _)
    · apply absent
      obtain ⟨c, other, rfl⟩ := List.exists_cons_of_ne_nil enclosed.nonempty
      rw [List.cons_append, List.tail_cons, same, ← List.append_assoc]
      exact List.infix_append other stop between

/-! ## The search for the shortest -/

variable {c : Char}

/-- A first character behind which the text does not close is part of what is enclosed. -/
theorem Enclosed.cons_iff (inLine : c ≠ '\n') (goesOn : ¬ stop <+: text) :
    Enclosed [] stop (c :: text) name ↔
      ∃ inner, name = c :: inner ∧ Enclosed [] stop text inner := by
  constructor
  · intro ⟨nonempty, oneLine, stands⟩
    obtain ⟨d, inner, rfl⟩ := List.exists_cons_of_ne_nil nonempty
    rw [List.nil_append, List.cons_append, List.cons_prefix_cons] at stands
    obtain ⟨rfl, stands⟩ := stands
    refine ⟨inner, rfl, fun none => goesOn ?_, fun member => oneLine ?_, stands⟩
    · rwa [none] at stands
    · exact List.mem_cons_of_mem d member
  · rintro ⟨inner, rfl, enclosed⟩
    refine ⟨List.cons_ne_nil c inner, ?_, ?_⟩
    · rw [List.mem_cons, not_or]
      exact ⟨inLine.symm, enclosed.oneLine⟩
    · exact List.cons_prefix_cons.2 ⟨rfl, enclosed.stands⟩

theorem Shortest.cons_iff (inLine : c ≠ '\n') (goesOn : ¬ stop <+: text) :
    Shortest [] stop (c :: text) name ↔
      ∃ inner, name = c :: inner ∧ Shortest [] stop text inner := by
  constructor
  · intro shortest
    obtain ⟨inner, rfl, enclosed⟩ := (Enclosed.cons_iff inLine goesOn).1 shortest.toEnclosed
    refine ⟨inner, rfl, enclosed, fun other enclosed => ?_⟩
    have le := shortest.shortest (c :: other)
      ((Enclosed.cons_iff inLine goesOn).2 ⟨other, rfl, enclosed⟩)
    simpa using le
  · rintro ⟨inner, rfl, shortest⟩
    refine ⟨(Enclosed.cons_iff inLine goesOn).2 ⟨inner, rfl, shortest.toEnclosed⟩, ?_⟩
    intro other enclosed
    obtain ⟨other, rfl, inside⟩ := (Enclosed.cons_iff inLine goesOn).1 enclosed
    simpa using shortest.shortest other inside

/-- Where the text closes behind its first character, this is the shortest. -/
theorem Shortest.singleton_iff (inLine : c ≠ '\n') (closes : stop <+: text) :
    Shortest [] stop (c :: text) name ↔ name = [c] := by
  have one : Enclosed [] stop (c :: text) [c] :=
    ⟨List.cons_ne_nil c [], by simpa using inLine.symm, List.cons_prefix_cons.2 ⟨rfl, closes⟩⟩
  have least {name : List Char} (enclosed : Enclosed [] stop (c :: text) name) :
      1 ≤ name.length := List.length_pos_iff.2 enclosed.nonempty
  constructor
  · intro shortest
    have length : name.length ≤ 1 := shortest.shortest [c] one
    obtain ⟨d, rfl⟩ := List.length_eq_one_iff.1
      (Nat.le_antisymm length (least shortest.toEnclosed))
    rw [(List.cons_prefix_cons.1 shortest.stands).1]
  · rintro rfl
    exact ⟨one, fun other enclosed => least enclosed⟩

theorem shortestUpTo_passed_iff {passed found : List Char} :
    shortestUpTo stop passed text = some found ↔
      ∃ name, found = passed.reverse ++ name ∧ Shortest [] stop text name := by
  induction text generalizing passed with
  | nil =>
    refine iff_of_false nofun fun ⟨name, _, shortest⟩ => ?_
    have none := List.prefix_nil.1 shortest.stands
    exact shortest.nonempty (List.append_eq_nil_iff.1 (List.append_eq_nil_iff.1 none).2).1
  | cons c text ih =>
    rw [shortestUpTo]
    split
    · rename_i feed
      refine iff_of_false nofun fun ⟨name, _, shortest⟩ => ?_
      obtain ⟨d, inner, rfl⟩ := List.exists_cons_of_ne_nil shortest.nonempty
      have same : d = c := (List.cons_prefix_cons.1 shortest.stands).1
      exact shortest.oneLine (by rw [same, feed]; exact List.mem_cons_self)
    · rename_i inLine
      split
      · rename_i closes
        rw [List.isPrefixOf_iff_prefix] at closes
        simp only [Shortest.singleton_iff inLine closes, exists_eq_right, Option.some.injEq,
          eq_comm]
      · rename_i goesOn
        rw [List.isPrefixOf_iff_prefix] at goesOn
        simp only [ih, Shortest.cons_iff inLine goesOn, List.reverse_cons, List.append_assoc,
          List.singleton_append]
        constructor
        · intro ⟨name, found, shortest⟩
          exact ⟨c :: name, found, name, rfl, shortest⟩
        · rintro ⟨_, found, name, rfl, shortest⟩
          exact ⟨name, found, shortest⟩

/-- The search finds the shortest text on one line, of at least one character, in front of a
mark. -/
theorem shortestUpTo_eq_some_iff :
    shortestUpTo stop [] text = some name ↔ Shortest [] stop text name := by
  rw [shortestUpTo_passed_iff]
  simp only [List.reverse_nil, List.nil_append, exists_eq_left']

end Tutor.Text
