import SolutionSurvey.Journal.Event
import SolutionSurvey.Solution.Graph

/-!
# Dependency order

The order in which each project follows the projects it refers to. Among the projects that may come
next, the one with the least place in the solution does. Where no order exists the references run in a
circle, and a walk along the edges finds one.

## Main definitions

* `Agenda` — the nodes that wait, with the edges that are still open into each, and the free ones.
* `DependencyGraph.drain` — takes the free nodes one after another.
* `DependencyGraph.order?` — the order, if there is one.
* `DependencyGraph.cycle?` — the first circle that the walk meets.
* `Solution.dependencyOrder` — the order of a solution, or the report of a circle.
-/

namespace SolutionSurvey

/-! ## Order

An edge is open until the node that it starts from is taken. A node into which no edge is open is free. -/

/-- Where the ordering stands: the nodes that wait, each with the number of open edges into it, and the
free nodes that are not yet taken, those with smaller places first. -/
structure Agenda where
  waiting : List (GraphNode × Nat)
  free : List GraphNode
  deriving Repr, DecidableEq, Inhabited

namespace Agenda

/-- Free nodes with one more, which keeps them in the order of their places. -/
def insertFree (new : GraphNode) : List GraphNode → List GraphNode
  | [] => [new]
  | n :: rest => if new.place < n.place then new :: n :: rest else n :: insertFree new rest

/-- The agenda after one of the open edges into a node is closed. With its last open edge the node
becomes free. -/
def closeEdge (a : Agenda) (id : ProjectId) : Agenda :=
  match a.waiting.find? fun e => e.1.id == id with
  | none => a
  | some (n, count) =>
    if count = 1 then
      { waiting := a.waiting.filter fun e => e.1.id != id, free := insertFree n a.free }
    else
      { a with waiting := a.waiting.map fun e => if e.1.id = id then (e.1, e.2 - 1) else e }

end Agenda

namespace DependencyGraph

/-- The agenda before any node is taken, when all edges are open. -/
def agenda (g : DependencyGraph) : Agenda :=
  { waiting := (g.nodes.map fun n => (n, (g.predecessors n.id).length)).filter fun e => e.2 != 0
    free := (g.nodes.filter fun n => (g.predecessors n.id).isEmpty).foldr Agenda.insertFree [] }

/-- The agenda after all edges from a node are closed. -/
def release (g : DependencyGraph) (id : ProjectId) (a : Agenda) : Agenda :=
  (g.successors id).foldl Agenda.closeEdge a

/-- Takes the first free node, at most `count` times: the nodes that were taken, and the agenda that is
left. -/
def drain (g : DependencyGraph) : Nat → Agenda → List ProjectId × Agenda
  | 0, a => ([], a)
  | count + 1, a =>
    match a.free with
    | [] => ([], a)
    | n :: rest =>
      let more := drain g count (g.release n.id { a with free := rest })
      (n.id :: more.1, more.2)

/-- The order of all nodes, if there is one: none of them is left waiting. -/
def order? (g : DependencyGraph) : Option (List ProjectId) :=
  let taken := g.drain g.nodes.length g.agenda
  if taken.2.waiting.isEmpty then some taken.1 else none

/-! ## Circles

The walk goes along edges in depth, from each node in turn that it has not left before. An edge back to
a node of the path closes a circle. -/

/-- How a walk below a node ends: with a circle, or with all nodes that were left for good. -/
inductive Search where
  | circle (nodes : List ProjectId)
  | left (nodes : List ProjectId)
  deriving Repr, Inhabited

/-- Goes on with the edge to the node `t` from the end of `path`, which holds its nodes last first. An
edge to a node that was left leads nowhere new, and `below` is the walk from `t` on. -/
def Search.along (path : List ProjectId) (t : ProjectId) (below : List ProjectId → Search) :
    Search → Search
  | .circle c => .circle c
  | .left gone =>
    if gone.contains t then .left gone
    else if path.contains t then .circle (t :: (path.takeWhile (· != t)).reverse)
    else
      match below gone with
      | .circle c => .circle c
      | .left gone => .left (t :: gone)

/-- The walk over the given nodes. `path` holds the way to them, last node first, and `left` the nodes
that the walk has left. At most `fuel` nodes lie on the way below. -/
def search (g : DependencyGraph) : Nat → (path left : List ProjectId) → List ProjectId → Search
  | 0, _, left, _ => .left left
  | fuel + 1, path, left, targets =>
    targets.foldl
      (fun s t => s.along path t fun left => search g fuel (t :: path) left (g.successors t))
      (.left left)

/-- The first circle that the walk meets, from the node on at which it closes. -/
def cycle? (g : DependencyGraph) : Option (List ProjectId) :=
  match g.search (g.nodes.length + 1) [] [] g.ids with
  | .circle c => some c
  | .left _ => none

end DependencyGraph

/-- The order of a solution's projects, or the report of a circle among their references. -/
def Solution.dependencyOrder (s : Solution) : Noted (List ProjectId) :=
  let g := s.graph
  match g.order? with
  | some order => ⟨[.dependencyOrder order.length], .ok order⟩
  | none =>
    let names := ((g.cycle?).getD []).map g.nameOf
    ⟨[.dependencyCycle names], .error (.report (.dependencyCycle names))⟩

end SolutionSurvey
