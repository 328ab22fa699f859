import SolutionSurvey.Solution.Graph
import Mathlib.Data.List.Induction
import Mathlib.Data.List.Nodup
import Mathlib.Data.Nat.Find

/-!
# What the graph of a solution holds

The graph has one node for each identity of the solution, with the name and the place of the last
project that has it, and one edge for each pair of identities of which the second refers to the first.

## Main definitions

* `Solution.Precedes` — which identities come before which.
* `Solution.lastPlace` — the place that an identity stands at.
* `DependencyGraph.WellFormed` — what searches over a graph rely on.
* `Solution.graph_wellFormed`, `Solution.mem_graph_ids`, `Solution.mem_graph_edges` — the graph of a
  solution, seen from the solution.
-/

namespace SolutionSurvey

/-! ## The references of a solution as a relation -/

namespace Solution

/-- Some project with the identity `b` refers to `a`, and the solution has `a`. -/
def Precedes (s : Solution) (a b : ProjectId) : Prop :=
  a ∈ s.ids ∧ ∃ p ∈ s.projects, p.id = b ∧ a ∈ p.references

/-- The place of the last project that has an identity. -/
def lastPlace (s : Solution) (id : ProjectId) : ℕ :=
  Nat.findGreatest (fun n => s.ids[n]? = some id) s.ids.length

theorem Precedes.left_mem {s : Solution} {a b : ProjectId} (h : s.Precedes a b) : a ∈ s.ids := h.1

theorem Precedes.right_mem {s : Solution} {a b : ProjectId} (h : s.Precedes a b) : b ∈ s.ids := by
  obtain ⟨-, p, hp, rfl, -⟩ := h
  exact List.mem_map_of_mem hp

end Solution

/-! ## Nodes -/

namespace DependencyGraph

/-- A node put to others replaces the one of its identity. -/
theorem mem_putNode {new n : GraphNode} {ns : List GraphNode} (h : (ns.map GraphNode.id).Nodup) :
    n ∈ putNode new ns ↔ n = new ∨ n ∈ ns ∧ n.id ≠ new.id := by
  induction ns with
  | nil => simp [putNode]
  | cons m ns ih =>
      simp only [List.map_cons, List.nodup_cons] at h
      by_cases hm : m.id = new.id
      · have hout : ∀ k ∈ ns, k.id ≠ new.id := by
          intro k hk heq
          exact h.1 (hm ▸ heq ▸ List.mem_map_of_mem hk)
        simp only [putNode, hm, if_true, List.mem_cons]
        constructor
        · rintro (rfl | hn)
          · exact Or.inl rfl
          · exact Or.inr ⟨Or.inr hn, hout n hn⟩
        · rintro (rfl | ⟨rfl | hn, hne⟩)
          · exact Or.inl rfl
          · exact absurd hm hne
          · exact Or.inr hn
      · simp only [putNode, hm, if_false, List.mem_cons, ih h.2]
        constructor
        · rintro (rfl | rfl | hn)
          · exact Or.inr ⟨Or.inl rfl, hm⟩
          · exact Or.inl rfl
          · exact Or.inr ⟨Or.inr hn.1, hn.2⟩
        · rintro (rfl | ⟨rfl | hn, hne⟩)
          · exact Or.inr (Or.inl rfl)
          · exact Or.inl rfl
          · exact Or.inr (Or.inr ⟨hn, hne⟩)

/-- A node of a new identity comes last, and one of a known identity keeps the place of that identity. -/
theorem map_id_putNode (new : GraphNode) (ns : List GraphNode) :
    (putNode new ns).map GraphNode.id =
      if new.id ∈ ns.map GraphNode.id then ns.map GraphNode.id
      else ns.map GraphNode.id ++ [new.id] := by
  induction ns with
  | nil => simp [putNode]
  | cons m ns ih =>
      by_cases hm : m.id = new.id
      · simp [putNode, hm]
      · have hne : new.id ≠ m.id := Ne.symm hm
        simp only [putNode, hm, if_false, List.map_cons, ih, List.mem_cons, hne, false_or]
        split <;> simp

theorem nodup_putNode {new : GraphNode} {ns : List GraphNode} (h : (ns.map GraphNode.id).Nodup) :
    ((putNode new ns).map GraphNode.id).Nodup := by
  rw [map_id_putNode]
  split
  · exact h
  · rename_i hnew
    rw [← List.concat_eq_append]
    exact h.concat hnew

/-- What searches over a graph rely on: each identity has one node, edges join nodes, and no two nodes
stand at one place. -/
structure WellFormed (g : DependencyGraph) : Prop where
  nodup_ids : g.ids.Nodup
  edge_ids : ∀ {a b : ProjectId}, (a, b) ∈ g.edges → a ∈ g.ids ∧ b ∈ g.ids
  place_inj : ∀ m ∈ g.nodes, ∀ n ∈ g.nodes, m.place = n.place → m = n

/-- The node of an identity. -/
theorem exists_node {g : DependencyGraph} {id : ProjectId} (h : id ∈ g.ids) :
    ∃ n ∈ g.nodes, n.id = id := by
  simpa [ids] using h

theorem WellFormed.id_inj {g : DependencyGraph} (W : g.WellFormed) {m n : GraphNode}
    (hm : m ∈ g.nodes) (hn : n ∈ g.nodes) (h : m.id = n.id) : m = n :=
  List.inj_on_of_nodup_map W.nodup_ids hm hn h

/-- The name at a node is the name that the node holds. -/
theorem WellFormed.nameOf_eq {g : DependencyGraph} (W : g.WellFormed) {n : GraphNode}
    (hn : n ∈ g.nodes) : g.nameOf n.id = n.name := by
  have hsome : (g.nodes.find? fun m => m.id == n.id).isSome := by
    rw [List.find?_isSome]
    exact ⟨n, hn, by simp⟩
  obtain ⟨m, hm⟩ := Option.isSome_iff_exists.mp hsome
  have hid : m.id = n.id := by simpa using List.find?_some hm
  have heq : m = n := W.id_inj (List.mem_of_find?_eq_some hm) hn hid
  simp [nameOf, hm, heq]

/-! ## Edges -/

theorem mem_putEdge (new e : ProjectId × ProjectId) (es : List (ProjectId × ProjectId)) :
    e ∈ putEdge new es ↔ e = new ∨ e ∈ es := by
  unfold putEdge
  split
  · rename_i h
    constructor
    · exact Or.inr
    · rintro (rfl | he)
      · exact h
      · exact he
  · simp [or_comm]

theorem mem_foldl_putEdge (e : ProjectId × ProjectId) (news es : List (ProjectId × ProjectId)) :
    e ∈ news.foldl (fun es new => putEdge new es) es ↔ e ∈ news ∨ e ∈ es := by
  induction news generalizing es with
  | nil => simp
  | cons new news ih =>
      rw [List.foldl_cons, ih, mem_putEdge, List.mem_cons]
      tauto

end DependencyGraph

/-! ## The graph of a solution -/

namespace Solution

/-- A node stands for the last project of its identity. -/
def StandsForLast (ps : List Project) (n : GraphNode) : Prop :=
  ∃ p, ps[n.place]? = some p ∧ p.id = n.id ∧ p.name = n.name ∧
    ∀ k q, n.place < k → ps[k]? = some q → q.id ≠ n.id

/-- One more project: its own node stands for it, and no other node of its identity counts any more. -/
theorem standsForLast_concat (ps : List Project) (p : Project) (n : GraphNode) :
    StandsForLast (ps ++ [p]) n ↔
      n = ⟨p.id, p.name, ps.length⟩ ∨ StandsForLast ps n ∧ n.id ≠ p.id := by
  have hlast : (ps ++ [p])[ps.length]? = some p := by simp
  constructor
  · rintro ⟨q, hq, hid, hname, hlater⟩
    rcases lt_trichotomy n.place ps.length with hlt | heq | hgt
    · refine Or.inr ⟨⟨q, ?_, hid, hname, ?_⟩, Ne.symm (hlater _ p hlt hlast)⟩
      · rwa [List.getElem?_append_left hlt] at hq
      · intro k r hk hr
        apply hlater k r hk
        rw [List.getElem?_append_left (List.getElem?_eq_some_iff.mp hr).1]
        exact hr
    · rw [heq, hlast, Option.some_inj] at hq
      subst hq
      exact Or.inl (by rw [hid, hname, ← heq])
    · rw [List.getElem?_eq_none (by simp; omega)] at hq
      cases hq
  · rintro (rfl | ⟨⟨q, hq, hid, hname, hlater⟩, hne⟩)
    · refine ⟨p, hlast, rfl, rfl, ?_⟩
      intro k r hk hr
      rw [List.getElem?_eq_none (by simp at hk ⊢; omega)] at hr
      cases hr
    · have hlt : n.place < ps.length := (List.getElem?_eq_some_iff.mp hq).1
      refine ⟨q, by rw [List.getElem?_append_left hlt]; exact hq, hid, hname, ?_⟩
      intro k r hk hr
      rcases lt_or_ge k ps.length with hkl | hkl
      · rw [List.getElem?_append_left hkl] at hr
        exact hlater k r hk hr
      · rw [List.getElem?_append_right hkl] at hr
        have hrp : p = r := by
          rcases hz : k - ps.length with _ | j <;> simp_all
        rw [← hrp]
        exact Ne.symm hne

/-- The nodes of a list of projects, one for each identity, stand for the last projects. -/
theorem graphNodes_spec (path : Option FilePath) (ps : List Project) :
    ((graphNodes ⟨path, ps⟩).map GraphNode.id).Nodup ∧
      (∀ n, n ∈ graphNodes ⟨path, ps⟩ ↔ StandsForLast ps n) ∧
      ∀ id, id ∈ (graphNodes ⟨path, ps⟩).map GraphNode.id ↔ id ∈ ps.map Project.id := by
  induction ps using List.reverseRecOn with
  | nil => simp [graphNodes, StandsForLast]
  | append_singleton ps p ih =>
      obtain ⟨hnodup, hmem, hids⟩ := ih
      have hstep : graphNodes ⟨path, ps ++ [p]⟩ =
          DependencyGraph.putNode ⟨p.id, p.name, ps.length⟩ (graphNodes ⟨path, ps⟩) := by
        simp [graphNodes, List.zipIdx_append]
      rw [hstep]
      refine ⟨DependencyGraph.nodup_putNode hnodup, ?_, ?_⟩
      · intro n
        rw [DependencyGraph.mem_putNode hnodup, standsForLast_concat, hmem n]
      · intro id
        rw [DependencyGraph.map_id_putNode, List.map_append, List.mem_append, ← hids id]
        split
        · rename_i hknown
          constructor
          · exact Or.inl
          · rintro (h | h)
            · exact h
            · simp only [List.map_cons, List.map_nil, List.mem_singleton] at h
              exact h ▸ hknown
        · simp

variable (s : Solution)

theorem mem_graph_nodes (n : GraphNode) : n ∈ s.graph.nodes ↔ StandsForLast s.projects n :=
  (graphNodes_spec s.path s.projects).2.1 n

/-- The graph has the identities of the solution. -/
theorem mem_graph_ids (id : ProjectId) : id ∈ s.graph.ids ↔ id ∈ s.ids :=
  (graphNodes_spec s.path s.projects).2.2 id

/-- The graph has an edge wherever one identity precedes another. -/
theorem mem_graph_edges (a b : ProjectId) : (a, b) ∈ s.graph.edges ↔ s.Precedes a b := by
  simp only [graph, DependencyGraph.mem_foldl_putEdge, graphEdges, List.mem_flatMap, List.mem_map,
    List.mem_filter, List.contains_iff_mem, Prod.mk.injEq, List.not_mem_nil, or_false, Precedes]
  constructor
  · rintro ⟨p, hp, r, ⟨hr, hin⟩, rfl, rfl⟩
    exact ⟨hin, p, hp, rfl, hr⟩
  · rintro ⟨hin, p, hp, rfl, hr⟩
    exact ⟨p, hp, a, ⟨hr, hin⟩, rfl, rfl⟩

theorem graph_wellFormed : s.graph.WellFormed where
  nodup_ids := (graphNodes_spec s.path s.projects).1
  edge_ids := by
    intro a b h
    rw [mem_graph_edges] at h
    rw [mem_graph_ids, mem_graph_ids]
    exact ⟨h.left_mem, h.right_mem⟩
  place_inj := by
    intro m hm n hn hplace
    obtain ⟨p, hp, hpid, hpname, -⟩ := (s.mem_graph_nodes m).mp hm
    obtain ⟨q, hq, hqid, hqname, -⟩ := (s.mem_graph_nodes n).mp hn
    rw [hplace, hq, Option.some_inj] at hp
    subst hp
    cases m
    cases n
    simp_all

/-- The place of a node is the last place of its identity. -/
theorem lastPlace_eq_place {n : GraphNode} (hn : n ∈ s.graph.nodes) : s.lastPlace n.id = n.place := by
  obtain ⟨p, hp, hid, -, hlater⟩ := (s.mem_graph_nodes n).mp hn
  have hlt : n.place < s.projects.length := (List.getElem?_eq_some_iff.mp hp).1
  rw [lastPlace, Nat.findGreatest_eq_iff]
  refine ⟨by simp [ids]; omega, ?_, ?_⟩
  · intro _
    simp [ids, hp, hid]
  · intro k hk _ hkid
    simp only [ids, List.getElem?_map, Option.map_eq_some_iff] at hkid
    obtain ⟨q, hq, hqid⟩ := hkid
    exact hlater k q hk hq hqid

/-- Look-up finds the project that a node stands for. -/
theorem project?_eq_getElem?_place {n : GraphNode} (hn : n ∈ s.graph.nodes) :
    s.project? n.id = s.projects[n.place]? := by
  obtain ⟨p, hp, hid, -, hlater⟩ := (s.mem_graph_nodes n).mp hn
  obtain ⟨hlt, hget⟩ := List.getElem?_eq_some_iff.mp hp
  rw [hp, project?, List.find?_eq_some_iff_append]
  refine ⟨by simp [hid], (s.projects.drop (n.place + 1)).reverse,
    (s.projects.take n.place).reverse, ?_, ?_⟩
  · conv_lhs => rw [← List.take_append_drop n.place s.projects, List.drop_eq_getElem_cons hlt]
    simp [hget]
  · intro q hq
    obtain ⟨k, hk⟩ := List.getElem?_of_mem (List.mem_reverse.mp hq)
    rw [List.getElem?_drop] at hk
    simpa using hlater _ q (by omega) hk

/-- Look-up finds the project at the last place of an identity. -/
theorem project?_eq_getElem?_lastPlace {id : ProjectId} (h : id ∈ s.ids) :
    s.project? id = s.projects[s.lastPlace id]? := by
  obtain ⟨n, hn, rfl⟩ := DependencyGraph.exists_node ((s.mem_graph_ids id).mpr h)
  rw [s.project?_eq_getElem?_place hn, s.lastPlace_eq_place hn]

/-- Look-up finds a project with the name that a node holds. -/
theorem project?_name {n : GraphNode} (hn : n ∈ s.graph.nodes) :
    (s.project? n.id).map Project.name = some n.name := by
  obtain ⟨p, hp, -, hname, -⟩ := (s.mem_graph_nodes n).mp hn
  simp [s.project?_eq_getElem?_place hn, hp, hname]

/-- The name at a node is the name of the last project that has its identity. -/
theorem project?_name_eq_nameOf {id : ProjectId} (h : id ∈ s.ids) :
    (s.project? id).map Project.name = some (s.graph.nameOf id) := by
  obtain ⟨n, hn, rfl⟩ := DependencyGraph.exists_node ((s.mem_graph_ids id).mpr h)
  rw [s.project?_name hn, s.graph_wellFormed.nameOf_eq hn]

end Solution

end SolutionSurvey
