import SolutionSurvey.Syntax.Tree
import SolutionSurvey.Syntax.Walk
import Mathlib.Data.List.Basic

/-!
# Walks downwards give nodes in pre-order

The nodes below a node in pre-order are, child by child, the child and the nodes below it. A walk keeps a
stack instead of this recursion: what it still has to give are the nodes below the last given node, then
each node of the stack followed by the nodes below it. Each step gives the first of these or passes over
it, and comes nearer to the end.

## Main definitions

* `Located.preorder` — the nodes below a node, with `Located.preorder_eq` as its recursion.
* `DescendantWalk.remaining` — the nodes that a walk still has to give.
* `DescendantWalk.cost` — a bound on the steps to its end.
* `DescendantWalk.step_cases` — what one step does.
-/

namespace SolutionSurvey

/-! ## Pre-order -/

namespace SyntaxTree

mutual

/-- The nodes below the root of a tree in pre-order, where the root has the nodes `above` above it. -/
def nodesBelow (source : String) : SyntaxTree → List SyntaxTree → List Located
  | mk type named start stop branches, above =>
    nodesOfBranches source branches (mk type named start stop branches :: above)

/-- The nodes of some branches in pre-order. -/
def nodesOfBranches (source : String) :
    List (Option String × SyntaxTree) → List SyntaxTree → List Located
  | [], _ => []
  | (_, t) :: rest, above =>
    ⟨source, t, above⟩ :: nodesBelow source t above ++ nodesOfBranches source rest above

end

end SyntaxTree

namespace Located

/-- The nodes below a node in pre-order. -/
def preorder (n : Located) : List Located :=
  n.tree.nodesBelow n.source n.above

/-- Some nodes, each with the nodes below it in pre-order. -/
def forest (ns : List Located) : List Located :=
  ns.flatMap fun n => n :: n.preorder

@[simp] theorem forest_nil : forest [] = [] := rfl

@[simp] theorem forest_cons (n : Located) (ns : List Located) :
    forest (n :: ns) = n :: (n.preorder ++ forest ns) := by
  simp [forest]

/-- **The nodes below a node** are its children, each with the nodes below it. -/
theorem preorder_eq (n : Located) : n.preorder = forest n.children := by
  have hbranches : ∀ (above : List SyntaxTree) (branches : List Branch),
      SyntaxTree.nodesOfBranches n.source branches above =
        forest (branches.map fun b => ⟨n.source, b.2, above⟩) := by
    intro above branches
    induction branches with
    | nil => rfl
    | cons b rest ih =>
        rw [SyntaxTree.nodesOfBranches, ih, List.map_cons, forest_cons]
        rfl
  obtain ⟨source, ⟨type, named, start, stop, branches⟩, above⟩ := n
  rw [preorder, SyntaxTree.nodesBelow, hbranches, children, SyntaxTree.children, List.map_map]
  rfl

end Located

namespace SyntaxTree

mutual

/-- A tree has one node more than there are below its root. -/
theorem length_nodesBelow (source : String) : ∀ (t : SyntaxTree) (above : List SyntaxTree),
    (t.nodesBelow source above).length + 1 = t.size
  | mk type named start stop branches, above => by
    rw [nodesBelow, size, length_nodesOfBranches, Nat.add_comm]

theorem length_nodesOfBranches (source : String) : ∀ (branches : List (Option String × SyntaxTree))
    (above : List SyntaxTree), (nodesOfBranches source branches above).length = sizeOfBranches branches
  | [], _ => rfl
  | (_, t) :: rest, above => by
    rw [nodesOfBranches, sizeOfBranches, List.length_append, List.length_cons,
      length_nodesBelow source t above, length_nodesOfBranches source rest above]

end

end SyntaxTree

theorem Located.length_preorder (n : Located) : n.preorder.length + 1 = n.tree.size :=
  n.tree.length_nodesBelow n.source n.above

/-! ## Walks -/

namespace DescendantWalk

open Located

/-- Whether a walk gives a node or passes over it. -/
def shows (namedOnly : Bool) (n : Located) : Bool :=
  !namedOnly || n.tree.isNamed

/-- The nodes that a walk still has to give, in order. -/
def remaining : DescendantWalk Located → List Located
  | .start root namedOnly => root.preorder.filter (shows namedOnly)
  | .below n stack namedOnly => (n.preorder ++ forest stack).filter (shows namedOnly)
  | .pending stack namedOnly => (forest stack).filter (shows namedOnly)
  | .done => []

/-- A bound on the steps of a walk up to the one that finds its end. -/
def cost : DescendantWalk Located → ℕ
  | .start root _ => 2 * root.preorder.length + 2
  | .below n stack _ => 2 * (n.preorder.length + (forest stack).length) + 2
  | .pending stack _ => 2 * (forest stack).length + 1
  | .done => 1

theorem enter_eq (n : Located) (stack : List Located) (namedOnly : Bool) :
    enter Located.view n stack namedOnly = (none, .pending (n.children ++ stack) namedOnly) := rfl

/-- The nodes below an entered node come before those of the stack. -/
theorem forest_children_append (n : Located) (stack : List Located) :
    forest (n.children ++ stack) = n.preorder ++ forest stack := by
  rw [n.preorder_eq, forest, List.flatMap_append, forest, forest]

/-- **One step of a walk** gives the next node, or gives nothing, and comes nearer to the end; or it finds
that there are no more nodes. -/
theorem step_cases (w : DescendantWalk Located) :
    (∃ n w', w.step Located.view = (some (.item n), w') ∧ w.remaining = n :: w'.remaining ∧
        w'.cost < w.cost) ∨
      (∃ w', w.step Located.view = (none, w') ∧ w.remaining = w'.remaining ∧ w'.cost < w.cost) ∨
      (w.step Located.view = (some .finished, .done) ∧ w.remaining = []) := by
  match w with
  | .start root namedOnly =>
      refine .inr (.inl ⟨_, enter_eq root [] namedOnly, ?_, ?_⟩)
      · simp only [remaining, List.append_nil, ← root.preorder_eq]
      · simp only [cost, List.append_nil, ← root.preorder_eq]
        omega
  | .below n stack namedOnly =>
      refine .inr (.inl ⟨_, enter_eq n stack namedOnly, ?_, ?_⟩)
      · simp only [remaining, forest_children_append]
      · simp only [cost, forest_children_append, List.length_append]
        omega
  | .pending [] namedOnly => exact .inr (.inr ⟨rfl, rfl⟩)
  | .pending (n :: stack) namedOnly =>
      cases hshown : shows namedOnly n with
      | true =>
          refine .inl ⟨n, .below n stack namedOnly, if_pos hshown, ?_, ?_⟩
          · simp only [remaining, forest_cons, List.filter_cons_of_pos hshown]
          · simp only [cost, forest_cons, List.length_cons, List.length_append]
            omega
      | false =>
          have hpassed : ¬ shows namedOnly n = true := by simp [hshown]
          refine .inr (.inl ⟨.pending (n.children ++ stack) namedOnly, if_neg hpassed, ?_, ?_⟩)
          · simp only [remaining, forest_cons, List.filter_cons_of_neg hpassed, forest_children_append]
          · simp only [cost, forest_children_append, forest_cons, List.length_cons, List.length_append]
            omega
  | .done => exact .inr (.inr ⟨rfl, rfl⟩)

end DescendantWalk

end SolutionSurvey
