import SolutionSurvey.Solution.Basic

/-!
# Dependency graphs

The graph of a solution has a node for each identity and an edge from each referenced project to the
project that refers to it. References that leave the solution have no edge.

## Main definitions

* `GraphNode`, `DependencyGraph` — nodes and edges, in the order in which they first came.
* `Solution.graph` — the graph of a solution.
* `DependencyGraph.successors`, `DependencyGraph.predecessors` — the neighbours of a node.
-/

namespace SolutionSurvey

/-- A node: an identity with the name and the place of the last project that has it. -/
structure GraphNode where
  id : ProjectId
  name : String
  place : Nat
  deriving Repr, DecidableEq, Inhabited

/-- Nodes and edges. An edge leads from a project to one that refers to it. -/
structure DependencyGraph where
  nodes : List GraphNode
  edges : List (ProjectId × ProjectId)
  deriving Repr, DecidableEq, Inhabited

namespace DependencyGraph

/-- The nodes with one more: an identity that is known keeps its place among the nodes. -/
def putNode (new : GraphNode) : List GraphNode → List GraphNode
  | [] => [new]
  | n :: rest => if n.id = new.id then new :: rest else n :: putNode new rest

/-- The edges with one more, unless it is there. -/
def putEdge (new : ProjectId × ProjectId) (edges : List (ProjectId × ProjectId)) :
    List (ProjectId × ProjectId) :=
  if new ∈ edges then edges else edges ++ [new]

/-- The identities of the nodes. -/
def ids (g : DependencyGraph) : List ProjectId :=
  g.nodes.map GraphNode.id

/-- The nodes that edges from a node lead to. -/
def successors (g : DependencyGraph) (id : ProjectId) : List ProjectId :=
  (g.edges.filter fun e => e.1 == id).map Prod.snd

/-- The nodes that edges to a node come from. -/
def predecessors (g : DependencyGraph) (id : ProjectId) : List ProjectId :=
  (g.edges.filter fun e => e.2 == id).map Prod.fst

/-- The edges, those of each node together, in the order of the nodes. -/
def groupedEdges (g : DependencyGraph) : List (ProjectId × ProjectId) :=
  g.ids.flatMap fun id => (g.successors id).map fun t => (id, t)

/-- The name at a node. -/
def nameOf (g : DependencyGraph) (id : ProjectId) : String :=
  ((g.nodes.find? fun n => n.id == id).map GraphNode.name).getD ""

@[simp] theorem mem_successors (g : DependencyGraph) (a b : ProjectId) :
    b ∈ g.successors a ↔ (a, b) ∈ g.edges := by
  simp [successors]

@[simp] theorem mem_predecessors (g : DependencyGraph) (a b : ProjectId) :
    a ∈ g.predecessors b ↔ (a, b) ∈ g.edges := by
  simp [predecessors]

end DependencyGraph

namespace Solution

/-- The nodes of the graph of a solution. -/
def graphNodes (s : Solution) : List GraphNode :=
  s.projects.zipIdx.foldl (fun ns p => DependencyGraph.putNode ⟨p.1.id, p.1.name, p.2⟩ ns) []

/-- The edges that the references of a solution ask for, as often as they ask. -/
def graphEdges (s : Solution) : List (ProjectId × ProjectId) :=
  s.projects.flatMap fun p =>
    (p.references.filter fun r => s.ids.contains r).map fun r => (r, p.id)

/-- The dependency graph of a solution. -/
def graph (s : Solution) : DependencyGraph :=
  ⟨s.graphNodes, s.graphEdges.foldl (fun es e => DependencyGraph.putEdge e es) []⟩

end Solution

end SolutionSurvey
