import SolutionSurvey.Syntax.View

/-!
# Heaps of nodes

Nodes that are kept apart from each other and refer to each other by number, so that one of them can be
changed while walks are under way. Any attribute of a node may be missing, and an attribute may hold a
plain value in the place of a node.

## Main definitions

* `Thing` — a node by its number, or a plain value.
* `HeapNode` — the attributes of one node.
* `NodeHeap` — the nodes, with `NodeHeap.view` to read them.
-/

namespace SolutionSurvey

/-- A node by its number, or a plain value. -/
inductive Thing where
  | node (id : Nat)
  | value (v : Value)
  deriving Repr, Inhabited

/-- A thing that is there: everything but the null value. -/
def Thing.present? : Thing → Option Thing
  | .value .null => none
  | t => some t

/-- What reading the identifier of a node gives. -/
inductive IdentifierAttribute where
  | absent
  | raises (f : Failure)
  | holds (t : Thing)
  deriving Inhabited

/-- What a node offers for looking up a child by its role. -/
inductive RoleAttribute where
  /-- Nothing, or a value that cannot be called. -/
  | absent
  /-- The children by role. -/
  | table (children : List (String × Thing))
  deriving Inhabited

/-- The attributes of a node; each of them may be missing. -/
structure HeapNode where
  type : Option Value := none
  text : Option Value := none
  childCount : Option Value := none
  isNamed : Option Value := none
  parent : Option Thing := none
  children : Option (List Thing) := none
  identifier : IdentifierAttribute := .absent
  role : RoleAttribute := .absent
  deriving Inhabited

/-- Nodes by their numbers. -/
structure NodeHeap where
  nodes : Array HeapNode := #[]
  deriving Inhabited

namespace NodeHeap

/-- The node that a thing is. -/
def node? (h : NodeHeap) : Thing → Option HeapNode
  | .node id => h.nodes[id]?
  | .value _ => none

/-- An attribute of the node that a thing is. -/
def read {α : Type} (h : NodeHeap) (t : Thing) (get : HeapNode → Option α) : Except Failure α :=
  match (h.node? t).bind get with
  | some a => .ok a
  | none => .error .attributeMissing

/-- Whether a value equals zero. -/
def isZero (v : Value) : Bool :=
  Value.sameKey v (.int 0)

/-- The readings of the nodes of a heap. -/
def view (h : NodeHeap) : NodeView Thing where
  type t := h.read t HeapNode.type
  text t := h.read t HeapNode.text
  parent t := (h.read t HeapNode.parent).map Thing.present?
  children t := h.read t HeapNode.children
  isNamed t := ((h.node? t).bind HeapNode.isNamed).all Value.truthy
  isLeaf t := ((h.node? t).bind HeapNode.childCount).all isZero
  identifier t :=
    match (h.node? t).map HeapNode.identifier with
    | some (.holds v) => .ok v.present?
    | some (.raises f) => .error f
    | _ => .error .attributeMissing
  role t :=
    match (h.node? t).map HeapNode.role with
    | some (.table children) => some fun name => (children.lookup name).bind Thing.present?
    | _ => none

/-- The heap with one node changed. -/
def modify (h : NodeHeap) (t : Thing) (change : HeapNode → HeapNode) : NodeHeap :=
  match t with
  | .node id => ⟨h.nodes.modify id change⟩
  | .value _ => h

/-- The heap with another parent for a node. -/
def setParent (h : NodeHeap) (t parent : Thing) : NodeHeap :=
  h.modify t fun n => { n with parent := some parent }

/-- The heap with other children for a node. -/
def setChildren (h : NodeHeap) (t : Thing) (children : List Thing) : NodeHeap :=
  h.modify t fun n => { n with children := some children }

end NodeHeap

end SolutionSurvey
