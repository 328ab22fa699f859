import SolutionSurvey.Syntax.View

/-!
# Lazy walks

Walks over syntax nodes that read a node only when they have to: towards the root along the parents, and
downwards in pre-order along the children. What was not read yet may still change.

## Main definitions

* `ParentWalk`, `ParentWalk.next` — the walk towards the root.
* `DescendantWalk`, `DescendantWalk.step`, `DescendantWalk.next` — the walk downwards.
-/

namespace SolutionSurvey

variable {ν : Type}

/-! ## Towards the root -/

/-- The state of a walk towards the root. -/
inductive ParentWalk (ν : Type) where
  /-- Nothing was given yet. -/
  | start (node : ν) (includeSelf : Bool)
  /-- The node above this one comes next. -/
  | above (node : ν)
  | done
  deriving Inhabited

namespace ParentWalk

/-- Reads the node above and gives it. -/
def climb (view : NodeView ν) (n : ν) : Yield ν × ParentWalk ν :=
  match view.parent n with
  | .error f => (.failed f, .done)
  | .ok none => (.finished, .done)
  | .ok (some p) => (.item p, .above p)

/-- The next node of the walk. -/
def next (view : NodeView ν) : ParentWalk ν → Yield ν × ParentWalk ν
  | .start n true => (.item n, .above n)
  | .start n false => climb view n
  | .above n => climb view n
  | .done => (.finished, .done)

end ParentWalk

/-! ## Downwards

The stack holds the nodes that are still to come, next one first. The children of a node that was given
are read only when the walk goes on. -/

/-- The state of a walk downwards. -/
inductive DescendantWalk (ν : Type) where
  /-- Nothing was read yet. -/
  | start (root : ν) (namedOnly : Bool)
  /-- The children of `node` come next, then the stack. -/
  | below (node : ν) (stack : List ν) (namedOnly : Bool)
  /-- The stack comes next. -/
  | pending (stack : List ν) (namedOnly : Bool)
  | done
  deriving Inhabited

namespace DescendantWalk

/-- Reads the children of a node and puts them on the stack. -/
def enter (view : NodeView ν) (n : ν) (stack : List ν) (namedOnly : Bool) :
    Option (Yield ν) × DescendantWalk ν :=
  match view.children n with
  | .error f => (some (.failed f), .done)
  | .ok cs => (none, .pending (cs ++ stack) namedOnly)

/-- One step of the walk, which may give nothing. -/
def step (view : NodeView ν) : DescendantWalk ν → Option (Yield ν) × DescendantWalk ν
  | .start root namedOnly => enter view root [] namedOnly
  | .below n stack namedOnly => enter view n stack namedOnly
  | .pending [] _ => (some .finished, .done)
  | .pending (n :: stack) namedOnly =>
    if !namedOnly || view.isNamed n then (some (.item n), .below n stack namedOnly)
    else enter view n stack namedOnly
  | .done => (some .finished, .done)

/-- The next node of the walk, found in at most `fuel` steps. -/
def next (view : NodeView ν) : Nat → DescendantWalk ν → Yield ν × DescendantWalk ν
  | 0, w => (.finished, w)
  | fuel + 1, w =>
    match step view w with
    | (some y, w') => (y, w')
    | (none, w') => next view fuel w'

end DescendantWalk

end SolutionSurvey
