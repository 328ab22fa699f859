import SolutionSurvey.Failure

/-!
# How nodes are read

Walks and probes know a syntax node only by what can be read from it. A view gives these readings for
one representation of nodes; a reading that fails says why.

## Main definitions

* `NodeView` — the readings.
* `Yield` — what one step of a lazy walk gives.
* `isToken` — whether a node is a leaf that has a type, a text and a parent.
-/

namespace SolutionSurvey

/-- The readings of the nodes of one representation. -/
structure NodeView (ν : Type) where
  /-- The type of a node. -/
  type : ν → Except Failure Value
  /-- The source text of a node. -/
  text : ν → Except Failure Value
  /-- The node above, if there is one. -/
  parent : ν → Except Failure (Option ν)
  /-- The nodes directly below, in order. -/
  children : ν → Except Failure (List ν)
  /-- Whether a node stands for more than its own spelling. -/
  isNamed : ν → Bool
  /-- Whether a node has no nodes below it, as far as it says. -/
  isLeaf : ν → Bool
  /-- The identifier that a node itself gives. -/
  identifier : ν → Except Failure (Option ν)
  /-- The look-up of a child by the name of its role, if the node has one. -/
  role : ν → Option (String → Option ν)

/-- What one step of a lazy walk gives: an item, the failure that ends the walk, or its end. -/
inductive Yield (α : Type) where
  | item (a : α)
  | failed (f : Failure)
  | finished
  deriving Inhabited

/-- The same step with its item changed. -/
def Yield.map {α β : Type} (f : α → β) : Yield α → Yield β
  | .item a => .item (f a)
  | .failed e => .failed e
  | .finished => .finished

/-- A token is a leaf from which type, text and parent can be read. -/
def isToken {ν : Type} (view : NodeView ν) (n : ν) : Bool :=
  (view.type n).isOk && (view.text n).isOk && (view.parent n).isOk && view.isLeaf n

end SolutionSurvey
