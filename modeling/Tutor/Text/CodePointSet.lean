/-!
Sets of code points, given by their intervals in rising order and held as a search tree.

A Unicode property is a list of some hundred intervals, and a text asks for it once per
character; the tree answers in as many steps as it is deep.
-/

namespace Tutor

/-- A search tree of disjoint intervals, both ends included. -/
inductive CodePointSet
  | empty
  | node (left : CodePointSet) (low high : Nat) (right : CodePointSet)

namespace CodePointSet

/-- Whether a code point lies in one of the intervals. -/
def contains : CodePointSet → Nat → Bool
  | empty, _ => false
  | node left low high right, n =>
    if n < low then left.contains n else if high < n then right.contains n else true

/-- Takes up to `2 ^ depth - 1` intervals from the front of a list into a tree, and gives back the
intervals that found no place. -/
def build : Nat → List (Nat × Nat) → CodePointSet × List (Nat × Nat)
  | 0, intervals => (empty, intervals)
  | depth + 1, intervals =>
    match build depth intervals with
    | (left, []) => (left, [])
    | (left, (low, high) :: rest) =>
      (node left low high (build depth rest).1, (build depth rest).2)

/-- The set of the given intervals, which stand in rising order. -/
def ofIntervals (intervals : List (Nat × Nat)) : CodePointSet :=
  (build (intervals.length.log2 + 1) intervals).1

end CodePointSet

end Tutor
