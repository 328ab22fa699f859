/-!
# Similar words

How alike two texts are: twice the number of characters that match, over the number of all characters.
Characters match when they lie in the longest run that the texts share, or, by the same rule, in the
parts of the texts before that run, or in those after it.

## Main definitions

* `longestShared` — the longest run that two texts share.
* `matching` — the number of characters that match.
* `similar` — the words of a list that are alike enough to one that was meant.
-/

namespace SolutionSurvey.Text

/-- The number of characters that two texts share from their start on. -/
def sharedLead : List Char → List Char → Nat
  | a :: as, b :: bs => if a = b then sharedLead as bs + 1 else 0
  | _, _ => 0

/-- A run that two texts share: where it starts in each, and its length. -/
structure SharedRun where
  left : Nat
  right : Nat
  length : Nat
  deriving Repr, DecidableEq, Inhabited

/-- The longest run that two texts share; of several the first one in the left text, and of those the
first one in the right text. -/
def longestShared (left right : List Char) : SharedRun :=
  (List.range left.length).foldl (fun best i =>
    (List.range right.length).foldl (fun best j =>
      let n := sharedLead (left.drop i) (right.drop j)
      if best.length < n then ⟨i, j, n⟩ else best) best) ⟨0, 0, 0⟩

/-- The number of characters that match, when runs are sought at most `fuel` levels deep. -/
def matchingIn : Nat → List Char → List Char → Nat
  | 0, _, _ => 0
  | fuel + 1, left, right =>
    let r := longestShared left right
    if r.length = 0 then 0
    else
      matchingIn fuel (left.take r.left) (right.take r.right) + r.length +
        matchingIn fuel (left.drop (r.left + r.length)) (right.drop (r.right + r.length))

/-- The number of characters that match. -/
def matching (left right : List Char) : Nat :=
  matchingIn (left.length + 1) left right

/-- Whether at least six of ten characters match. -/
def alike (left right : List Char) : Bool :=
  6 * (left.length + right.length) ≤ 20 * matching left right

/-- The words that are alike enough to one that was meant, the best three of them, sorted. -/
def similar (meant : String) (words : List String) : List String :=
  let scored := (words.filter fun w => alike w.toList meant.toList).map fun w =>
    (2 * matching w.toList meant.toList, w.length + meant.length, w)
  let best := scored.mergeSort fun a b =>
    a.1 * b.2.1 > b.1 * a.2.1 || (a.1 * b.2.1 == b.1 * a.2.1 && decide (b.2.2 ≤ a.2.2))
  ((best.take 3).map fun w => w.2.2).mergeSort fun a b => decide (a ≤ b)

end SolutionSurvey.Text
