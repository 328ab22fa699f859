import SolutionSurvey.Proofs.Solution.Graph
import SolutionSurvey.Solution.Order
import Mathlib.Logic.Relation
import Mathlib.Order.WellFoundedSet

/-!
# The order is the least one

An agenda holds exactly the counts of open edges and the free nodes. Taking a node and closing its edges
keeps that, so that the nodes come in a legal order, and no legal order comes before it: at each turn
the node that is taken has the least place among all that any legal order may have there. Nodes that
are never taken each have a predecessor that is not taken either, which an acyclic relation rules out.

## Main definitions

* `Agenda.Holds` — what an agenda says about the nodes that were taken.
* `DependencyGraph.Legal` — each node comes when its predecessors have come.
* `Solution.IsBuildOrder`, `Solution.Acyclic` — the same for a solution.
* `Solution.order?_isSome_iff` — when there is an order.
* `Solution.dependencyOrder_least` — which order it is.
-/

namespace SolutionSurvey

/-! ## Free nodes -/

namespace Agenda

@[simp] theorem mem_insertFree {new n : GraphNode} {ns : List GraphNode} :
    n ∈ insertFree new ns ↔ n = new ∨ n ∈ ns := by
  induction ns with
  | nil => simp [insertFree]
  | cons m ns ih =>
      simp only [insertFree]
      split
      · simp
      · simp only [List.mem_cons, ih]
        tauto

/-- Insertion keeps the order of places when no other node stands at the new place. -/
theorem sorted_insertFree {new : GraphNode} {ns : List GraphNode}
    (h : ns.Pairwise fun m n => m.place < n.place) (hnew : ∀ n ∈ ns, n.place ≠ new.place) :
    (insertFree new ns).Pairwise fun m n => m.place < n.place := by
  induction ns with
  | nil => simp [insertFree]
  | cons m ns ih =>
      obtain ⟨hm, hns⟩ := List.pairwise_cons.mp h
      simp only [insertFree]
      split
      · rename_i hlt
        refine List.pairwise_cons.mpr ⟨?_, h⟩
        intro n hn
        rcases List.mem_cons.mp hn with rfl | hn
        · exact hlt
        · exact hlt.trans (hm n hn)
      · rename_i hge
        refine List.pairwise_cons.mpr ⟨?_, ih hns fun n hn => hnew n (List.mem_cons_of_mem m hn)⟩
        intro n hn
        rcases mem_insertFree.mp hn with rfl | hn
        · have := hnew m List.mem_cons_self
          omega
        · exact hm n hn

@[simp] theorem mem_foldr_insertFree {n : GraphNode} {ns : List GraphNode} :
    n ∈ ns.foldr insertFree [] ↔ n ∈ ns := by
  induction ns with
  | nil => simp
  | cons m ns ih => simp [ih]

theorem sorted_foldr_insertFree {ns : List GraphNode}
    (h : ns.Pairwise fun m n => m.place ≠ n.place) :
    (ns.foldr insertFree []).Pairwise fun m n => m.place < n.place := by
  induction ns with
  | nil => simp
  | cons m ns ih =>
      obtain ⟨hm, hns⟩ := List.pairwise_cons.mp h
      refine sorted_insertFree (ih hns) ?_
      intro n hn
      exact (hm n (mem_foldr_insertFree.mp hn)).symm

/-! ## The invariant -/

/-- What an agenda says when the nodes in `done` are taken and `openInto` counts the open edges into
each identity. -/
structure Holds (g : DependencyGraph) (done : List ProjectId) (openInto : ProjectId → ℕ)
    (a : Agenda) : Prop where
  mem_waiting : ∀ n k, (n, k) ∈ a.waiting ↔ n ∈ g.nodes ∧ k = openInto n.id ∧ k ≠ 0
  mem_free : ∀ n, n ∈ a.free ↔ n ∈ g.nodes ∧ n.id ∉ done ∧ openInto n.id = 0
  sorted : a.free.Pairwise fun m n => m.place < n.place
  closed : ∀ id ∈ done, openInto id = 0
  nodup : done.Nodup
  subset : done ⊆ g.ids

namespace Holds

variable {g : DependencyGraph} {done : List ProjectId} {openInto : ProjectId → ℕ} {a : Agenda}

/-- The entry that is found for a waiting node. -/
theorem find?_waiting (W : g.WellFormed) (H : a.Holds g done openInto) {n : GraphNode}
    (hn : n ∈ g.nodes) (hopen : openInto n.id ≠ 0) :
    a.waiting.find? (fun e => e.1.id == n.id) = some (n, openInto n.id) := by
  have hin : (n, openInto n.id) ∈ a.waiting := (H.mem_waiting _ _).mpr ⟨hn, rfl, hopen⟩
  have hsome : (a.waiting.find? fun e => e.1.id == n.id).isSome := by
    rw [List.find?_isSome]
    exact ⟨_, hin, by simp⟩
  obtain ⟨⟨m, k⟩, hm⟩ := Option.isSome_iff_exists.mp hsome
  have hid : m.id = n.id := by simpa using List.find?_some hm
  obtain ⟨hmem, hk, -⟩ := (H.mem_waiting m k).mp (List.mem_of_find?_eq_some hm)
  have heq : m = n := W.id_inj hmem hn hid
  rw [hm, hk, heq]

/-- With the last open edge into it closed, a node is free and waits no longer. -/
theorem closeLast (W : g.WellFormed) (H : a.Holds g done openInto) {n : GraphNode}
    (hn : n ∈ g.nodes) (hone : openInto n.id = 1) :
    Holds g done (Function.update openInto n.id 0)
      { waiting := a.waiting.filter fun e => e.1.id != n.id, free := insertFree n a.free } := by
  have hopen : openInto n.id ≠ 0 := by omega
  have hdone : n.id ∉ done := fun h => hopen (H.closed _ h)
  refine ⟨?_, ?_, ?_, ?_, H.nodup, H.subset⟩
  · intro m k
    simp only [List.mem_filter, H.mem_waiting, bne_iff_ne]
    by_cases hm : m.id = n.id
    · simp [hm]
    · simp [hm]
  · intro m
    simp only [mem_insertFree, H.mem_free]
    by_cases hm : m.id = n.id
    · rw [hm, Function.update_self]
      constructor
      · rintro (rfl | ⟨-, -, h⟩)
        · exact ⟨hn, hdone, rfl⟩
        · exact absurd h hopen
      · rintro ⟨hmem, -, -⟩
        exact Or.inl (W.id_inj hmem hn hm)
    · have hne : m ≠ n := fun h => hm (h ▸ rfl)
      simp [hm, hne]
  · refine sorted_insertFree H.sorted ?_
    intro m hm hplace
    obtain ⟨hmem, -, hzero⟩ := (H.mem_free m).mp hm
    have heq : m = n := W.place_inj m hmem n hn hplace
    exact hopen (heq ▸ hzero)
  · intro i hi
    have hne : i ≠ n.id := fun h => hdone (h ▸ hi)
    rw [Function.update_of_ne hne, H.closed i hi]

/-- With one of several open edges into it closed, a node waits on with a lower count. -/
theorem closeOne (H : a.Holds g done openInto) {n : GraphNode}
    (hopen : openInto n.id ≠ 0) (hone : openInto n.id ≠ 1) :
    Holds g done (Function.update openInto n.id (openInto n.id - 1))
      { a with waiting := a.waiting.map fun e => if e.1.id = n.id then (e.1, e.2 - 1) else e } := by
  refine ⟨?_, ?_, H.sorted, ?_, H.nodup, H.subset⟩
  · intro m k
    simp only [List.mem_map, Prod.exists]
    constructor
    · rintro ⟨m', k', hmem, heq⟩
      obtain ⟨hm', hk', hne⟩ := (H.mem_waiting m' k').mp hmem
      by_cases hid : m'.id = n.id
      · simp only [hid, if_true, Prod.mk.injEq] at heq
        obtain ⟨rfl, rfl⟩ := heq
        rw [hid] at hk'
        refine ⟨hm', by rw [hid, Function.update_self, hk'], by omega⟩
      · simp only [hid, if_false, Prod.mk.injEq] at heq
        obtain ⟨rfl, rfl⟩ := heq
        exact ⟨hm', by rw [Function.update_of_ne hid, hk'], hne⟩
    · rintro ⟨hmem, hk, hne⟩
      by_cases hid : m.id = n.id
      · rw [hid, Function.update_self] at hk
        have hin : (m, openInto n.id) ∈ a.waiting :=
          (H.mem_waiting _ _).mpr ⟨hmem, by rw [hid], hopen⟩
        exact ⟨m, openInto n.id, hin, by simp [hid, hk]⟩
      · rw [Function.update_of_ne hid] at hk
        exact ⟨m, k, (H.mem_waiting _ _).mpr ⟨hmem, hk, hne⟩, by simp [hid]⟩
  · intro m
    rw [H.mem_free]
    by_cases hm : m.id = n.id
    · rw [hm, Function.update_self]
      have hpos : openInto n.id - 1 ≠ 0 := by omega
      simp [hopen, hpos]
    · rw [Function.update_of_ne hm]
  · intro i hi
    have hne : i ≠ n.id := fun h => hopen (h ▸ H.closed i hi)
    rw [Function.update_of_ne hne, H.closed i hi]

/-- Closing an open edge lowers the count of the node that it leads to. -/
theorem closeEdge (W : g.WellFormed) (H : a.Holds g done openInto) {id : ProjectId}
    (hid : id ∈ g.ids) (hopen : openInto id ≠ 0) :
    (a.closeEdge id).Holds g done (Function.update openInto id (openInto id - 1)) := by
  obtain ⟨n, hn, rfl⟩ := DependencyGraph.exists_node hid
  rw [Agenda.closeEdge, H.find?_waiting W hn hopen]
  by_cases hone : openInto n.id = 1
  · simpa only [hone, if_true] using H.closeLast W hn hone
  · simpa only [hone, if_false] using H.closeOne hopen hone

/-- Closing several open edges lowers each count by the number of edges to its node. -/
theorem foldl_closeEdge (W : g.WellFormed) (H : a.Holds g done openInto) (ids : List ProjectId)
    (hids : ∀ id ∈ ids, id ∈ g.ids) (hopen : ∀ id, ids.count id ≤ openInto id) :
    (ids.foldl Agenda.closeEdge a).Holds g done fun id => openInto id - ids.count id := by
  induction ids generalizing a openInto with
  | nil => simpa using H
  | cons id ids ih =>
      have hpos : openInto id ≠ 0 := by
        have := hopen id
        simp only [List.count_cons_self] at this
        omega
      have hnext := H.closeEdge W (hids id List.mem_cons_self) hpos
      have hcount : ∀ i, Function.update openInto id (openInto id - 1) i - ids.count i =
          openInto i - (id :: ids).count i := by
        intro i
        by_cases hi : i = id
        · subst hi
          simp only [Function.update_self, List.count_cons_self]
          omega
        · rw [Function.update_of_ne hi, List.count_cons_of_ne (Ne.symm hi)]
      have hstep := ih hnext (fun i hi => hids i (List.mem_cons_of_mem id hi)) ?_
      · simpa only [hcount, List.foldl_cons] using hstep
      · intro i
        have hle := hopen i
        by_cases hi : i = id
        · subst hi
          simp only [Function.update_self, List.count_cons_self] at hle ⊢
          omega
        · rwa [Function.update_of_ne hi, ← List.count_cons_of_ne (Ne.symm hi) (l := ids)]

end Holds

end Agenda

/-! ## One node after another -/

namespace DependencyGraph

variable {g : DependencyGraph}

/-- The number of edges into an identity from those that are not in `done`. -/
def openInto (g : DependencyGraph) (done : List ProjectId) (id : ProjectId) : ℕ :=
  (g.predecessors id).countP fun p => p ∉ done

theorem openInto_eq_zero_iff (done : List ProjectId) (id : ProjectId) :
    g.openInto done id = 0 ↔ ∀ p ∈ g.predecessors id, p ∈ done := by
  simp [openInto, List.countP_eq_zero]

/-- An edge is seen from both of its ends. -/
theorem count_successors (g : DependencyGraph) (a b : ProjectId) :
    (g.successors a).count b = (g.predecessors b).count a := by
  simp only [successors, predecessors, List.count_eq_countP, List.countP_map, List.countP_filter]
  refine List.countP_congr fun e _ => ?_
  simp [and_comm]

/-- Among the edges that are open, those from a node that is not taken are closed by taking it. -/
theorem openInto_concat {done : List ProjectId} {id : ProjectId} (h : id ∉ done) (i : ProjectId) :
    g.openInto (done ++ [id]) i + (g.successors id).count i = g.openInto done i := by
  rw [count_successors]
  unfold openInto
  induction g.predecessors i with
  | nil => rfl
  | cons p ps ih =>
      simp only [List.countP_cons, List.count_cons, ← ih]
      by_cases hp : p = id
      · subst hp
        simp [h]
        omega
      · by_cases hd : p ∈ done <;> simp [hp, hd]
        omega

/-- Before any node is taken all edges are open. -/
theorem holds_agenda (W : g.WellFormed) : g.agenda.Holds g [] (g.openInto []) := by
  have hall : ∀ id, g.openInto [] id = (g.predecessors id).length := by
    intro id
    simp [openInto]
  refine ⟨?_, ?_, ?_, by simp, List.nodup_nil, by simp⟩
  · intro n k
    simp only [agenda, List.mem_filter, List.mem_map, Prod.mk.injEq, hall, bne_iff_ne]
    constructor
    · rintro ⟨⟨m, hm, rfl, rfl⟩, hk⟩
      exact ⟨hm, rfl, hk⟩
    · rintro ⟨hn, rfl, hk⟩
      exact ⟨⟨n, hn, rfl, rfl⟩, hk⟩
  · intro n
    simp [agenda, hall]
  · refine Agenda.sorted_foldr_insertFree (List.Pairwise.filter _ ?_)
    have hnodes : g.nodes.Nodup := List.Nodup.of_map _ W.nodup_ids
    exact hnodes.imp_of_mem fun hm hn hne hplace => hne (W.place_inj _ hm _ hn hplace)

/-- Taking the first free node and closing the edges from it. -/
theorem holds_release (W : g.WellFormed) {done : List ProjectId} {a : Agenda}
    (H : a.Holds g done (g.openInto done)) {n : GraphNode} {rest : List GraphNode}
    (hfree : a.free = n :: rest) :
    (g.release n.id { a with free := rest }).Holds g (done ++ [n.id])
      (g.openInto (done ++ [n.id])) := by
  obtain ⟨hn, hdone, hzero⟩ := (H.mem_free n).mp (by simp [hfree])
  have hsorted := H.sorted
  rw [hfree] at hsorted
  obtain ⟨hleast, hrest⟩ := List.pairwise_cons.mp hsorted
  have hmem : n.id ∈ g.ids := List.mem_map_of_mem hn
  have htaken : Agenda.Holds g (done ++ [n.id]) (g.openInto done) { a with free := rest } := by
    refine ⟨H.mem_waiting, ?_, hrest, ?_, ?_, ?_⟩
    · intro m
      have hm := H.mem_free m
      simp only [hfree, List.mem_cons] at hm
      simp only [List.mem_append, List.mem_singleton, not_or]
      by_cases hid : m.id = n.id
      · have hnot : m ∉ rest := fun h => by
          have hlt := hleast m h
          have hin := (hm.mp (Or.inr h)).1
          rw [W.id_inj hin hn hid] at hlt
          exact lt_irrefl _ hlt
        simp [hnot, hid]
      · have hne : m ≠ n := fun h => hid (h ▸ rfl)
        simpa [hid, hne] using hm
    · intro id hid
      rcases List.mem_append.mp hid with hid | hid
      · exact H.closed id hid
      · rwa [List.mem_singleton.mp hid]
    · rw [← List.concat_eq_append]
      exact H.nodup.concat hdone
    · intro id hid
      rcases List.mem_append.mp hid with hid | hid
      · exact H.subset hid
      · rwa [List.mem_singleton.mp hid]
  have hsucc : ∀ id ∈ g.successors n.id, id ∈ g.ids := by
    intro id hid
    exact (W.edge_ids ((mem_successors g n.id id).mp hid)).2
  have hcount : ∀ i, g.openInto done i - (g.successors n.id).count i =
      g.openInto (done ++ [n.id]) i := by
    intro i
    have := openInto_concat (g := g) hdone i
    omega
  have hle : ∀ i, (g.successors n.id).count i ≤ g.openInto done i := by
    intro i
    have := openInto_concat (g := g) hdone i
    omega
  simpa only [hcount, release] using htaken.foldl_closeEdge W (g.successors n.id) hsucc hle

/-! ## Legal orders -/

/-- Each listed node is new, and its predecessors have come when its turn arrives. -/
def Legal (g : DependencyGraph) : List ProjectId → List ProjectId → Prop
  | _, [] => True
  | done, id :: rest =>
    id ∈ g.ids ∧ id ∉ done ∧ (∀ p ∈ g.predecessors id, p ∈ done) ∧ g.Legal (done ++ [id]) rest

/-- A legal order names each node once, and no node that was taken before it. -/
theorem Legal.nodup {done order : List ProjectId} (h : g.Legal done order) :
    order.Nodup ∧ ∀ id ∈ order, id ∈ g.ids ∧ id ∉ done := by
  induction order generalizing done with
  | nil => simp
  | cons id rest ih =>
      obtain ⟨hid, hnew, -, hrest⟩ := h
      obtain ⟨hnodup, hall⟩ := ih hrest
      refine ⟨List.nodup_cons.mpr ⟨fun hin => (hall id hin).2 (by simp), hnodup⟩, ?_⟩
      intro i hi
      rcases List.mem_cons.mp hi with rfl | hi
      · exact ⟨hid, hnew⟩
      · exact ⟨(hall i hi).1, fun hin => (hall i hi).2 (List.mem_append_left _ hin)⟩

/-- In a legal order each edge leads forward. -/
theorem Legal.forward {done order : List ProjectId} (h : g.Legal done order) {a b : ProjectId}
    (he : (a, b) ∈ g.edges) (hb : b ∈ order) : a ∈ done ∨ order.idxOf a < order.idxOf b := by
  induction order generalizing done with
  | nil => cases hb
  | cons id rest ih =>
      obtain ⟨-, -, hpred, hrest⟩ := h
      by_cases hbid : b = id
      · subst hbid
        exact Or.inl (hpred a ((mem_predecessors g a b).mpr he))
      · have hbrest : b ∈ rest := (List.mem_cons.mp hb).resolve_left hbid
        by_cases haid : a = id
        · subst haid
          right
          rw [List.idxOf_cons_self, List.idxOf_cons_ne rest (Ne.symm hbid)]
          omega
        · rcases ih hrest hbrest with hdone | hlt
          · left
            simpa [haid] using hdone
          · right
            rw [List.idxOf_cons_ne rest (Ne.symm haid), List.idxOf_cons_ne rest (Ne.symm hbid)]
            omega

/-- A list of nodes along which every edge leads forward is a legal order. -/
theorem legal_of_forward {done order : List ProjectId} (hnodup : (done ++ order).Nodup)
    (hids : ∀ id ∈ order, id ∈ g.ids)
    (hforward : ∀ a b, (a, b) ∈ g.edges → (done ++ order).idxOf a < (done ++ order).idxOf b) :
    g.Legal done order := by
  induction order generalizing done with
  | nil => trivial
  | cons id rest ih =>
      have hsplit : done ++ id :: rest = (done ++ [id]) ++ rest := by simp
      have hnew : id ∉ done := by
        intro hin
        exact (List.nodup_append.mp hnodup).2.2 id hin id (by simp) rfl
      refine ⟨hids id (by simp), hnew, ?_, ?_⟩
      · intro p hp
        have hlt := hforward p id ((mem_predecessors g p id).mp hp)
        by_contra hpd
        rw [List.idxOf_append_of_notMem hpd, List.idxOf_append_of_notMem hnew,
          List.idxOf_cons_self] at hlt
        omega
      · apply ih
        · rwa [← hsplit]
        · intro i hi
          exact hids i (List.mem_cons_of_mem id hi)
        · rwa [← hsplit]

/-! ## The run -/

/-- When as many nodes are taken as there are, all are. -/
theorem ids_subset_of_length_le {done : List ProjectId} (hnodup : done.Nodup) (hsub : done ⊆ g.ids)
    (hlen : g.nodes.length ≤ done.length) : g.ids ⊆ done := by
  have hperm := (hnodup.subperm hsub).perm_of_length_le (by simpa [ids] using hlen)
  exact hperm.symm.subset

/-- What a run leads to: a legal order, after which the agenda still holds and, if the run was long
enough, no node is free. -/
theorem drain_spec (W : g.WellFormed) (count : ℕ) {done : List ProjectId} {a : Agenda}
    (H : a.Holds g done (g.openInto done)) (hlen : g.nodes.length ≤ done.length + count) :
    g.Legal done (g.drain count a).1 ∧ (g.drain count a).2.free = [] ∧
      (g.drain count a).2.Holds g (done ++ (g.drain count a).1)
        (g.openInto (done ++ (g.drain count a).1)) := by
  induction count generalizing done a with
  | zero =>
      have hall := ids_subset_of_length_le H.nodup H.subset (by simpa using hlen)
      refine ⟨trivial, ?_, by simpa [drain] using H⟩
      rw [drain, List.eq_nil_iff_forall_not_mem]
      intro n hn
      obtain ⟨hmem, hdone, -⟩ := (H.mem_free n).mp hn
      exact hdone (hall (List.mem_map_of_mem hmem))
  | succ count ih =>
      rcases hfree : a.free with _ | ⟨n, rest⟩
      · simpa [drain, hfree, Legal] using H
      · obtain ⟨hn, hdone, hzero⟩ := (H.mem_free n).mp (by simp [hfree])
        have hnext := ih (g.holds_release W H hfree) (by simp; omega)
        simp only [drain, hfree]
        refine ⟨⟨List.mem_map_of_mem hn, hdone, ?_, hnext.1⟩, hnext.2.1, ?_⟩
        · exact (openInto_eq_zero_iff done n.id).mp hzero
        · simpa using hnext.2.2

/-- The first node of a legal order is free. -/
theorem Legal.exists_free {done : List ProjectId} {a : Agenda} (H : a.Holds g done (g.openInto done))
    {id : ProjectId} {rest : List ProjectId} (h : g.Legal done (id :: rest)) :
    ∃ m ∈ a.free, m.id = id := by
  obtain ⟨hid, hnew, hpred, -⟩ := h
  obtain ⟨m, hm, rfl⟩ := exists_node hid
  exact ⟨m, (H.mem_free m).mpr ⟨hm, hnew, (openInto_eq_zero_iff done m.id).mpr hpred⟩, rfl⟩

/-- No legal order of all nodes comes before the order of a run, if nodes are told apart by their
places. -/
theorem drain_least (W : g.WellFormed) (place : ProjectId → ℕ)
    (hplace : ∀ n ∈ g.nodes, place n.id = n.place) (count : ℕ) {done other : List ProjectId}
    {a : Agenda} (H : a.Holds g done (g.openInto done))
    (hlen : g.nodes.length ≤ done.length + count) (hother : g.Legal done other)
    (hall : g.ids ⊆ done ++ other) :
    (g.drain count a).1 = other ∨
      List.Lex (· < ·) ((g.drain count a).1.map place) (other.map place) := by
  induction count generalizing done other a with
  | zero =>
      have hdone := ids_subset_of_length_le H.nodup H.subset (by simpa using hlen)
      left
      rw [drain, eq_comm, List.eq_nil_iff_forall_not_mem]
      intro id hid
      obtain ⟨hmem, hnew⟩ := hother.nodup.2 id hid
      exact hnew (hdone hmem)
  | succ count ih =>
      rcases hfree : a.free with _ | ⟨n, rest⟩
      · rcases other with _ | ⟨id, others⟩
        · simp [drain, hfree]
        · obtain ⟨m, hin, -⟩ := hother.exists_free H
          simp [hfree] at hin
      · obtain ⟨hn, hdone, -⟩ := (H.mem_free n).mp (by simp [hfree])
        simp only [drain, hfree]
        rcases other with _ | ⟨id, others⟩
        · have hin := hall (List.mem_map_of_mem hn)
          simp [hdone] at hin
        · obtain ⟨m, hin, rfl⟩ := hother.exists_free H
          obtain ⟨-, -, -, hrest⟩ := hother
          have hm : m ∈ g.nodes := ((H.mem_free m).mp hin).1
          have hsorted := H.sorted
          rw [hfree] at hin hsorted
          -- Either both orders start with the same node, or the run starts with a lower place.
          rcases List.mem_cons.mp hin with rfl | hlater
          · rcases ih (g.holds_release W H hfree) (by simp; omega) hrest (by simpa using hall)
              with heq | hlex
            · exact Or.inl (by rw [heq])
            · exact Or.inr (List.Lex.cons hlex)
          · right
            have hlt := (List.pairwise_cons.mp hsorted).1 m hlater
            rw [← hplace n hn, ← hplace m hm] at hlt
            exact List.Lex.rel hlt

/-- What is found is a legal order of all nodes. -/
theorem order?_legal (W : g.WellFormed) {order : List ProjectId} (h : g.order? = some order) :
    g.Legal [] order ∧ g.ids ⊆ order := by
  obtain ⟨hlegal, hfree, hend⟩ := drain_spec W g.nodes.length (holds_agenda W) (by simp)
  simp only [order?] at h
  split at h
  · rename_i hempty
    cases h
    refine ⟨hlegal, ?_⟩
    -- A node that is not taken would be free or wait, and there is none of either kind.
    intro id hid
    by_contra hnot
    obtain ⟨n, hn, rfl⟩ := exists_node hid
    by_cases hzero : g.openInto ([] ++ (g.drain g.nodes.length g.agenda).1) n.id = 0
    · have hin := (hend.mem_free n).mpr ⟨hn, by simpa using hnot, hzero⟩
      simp [hfree] at hin
    · have hin := (hend.mem_waiting n _).mpr ⟨hn, rfl, hzero⟩
      simp [List.isEmpty_iff.mp hempty] at hin
  · cases h

/-- What is found comes before all other legal orders of all nodes. -/
theorem order?_least (W : g.WellFormed) (place : ProjectId → ℕ)
    (hplace : ∀ n ∈ g.nodes, place n.id = n.place) {order other : List ProjectId}
    (h : g.order? = some order) (hother : g.Legal [] other) (hall : g.ids ⊆ other) :
    order = other ∨ List.Lex (· < ·) (order.map place) (other.map place) := by
  simp only [order?] at h
  split at h
  · cases h
    exact drain_least W place hplace g.nodes.length (holds_agenda W) (by simp) hother (by simpa)
  · cases h

/-- Where nothing is found some nodes are never taken, and each of them has a predecessor among them. -/
theorem exists_stuck_of_order?_eq_none (W : g.WellFormed) (h : g.order? = none) :
    ∃ taken : List ProjectId, (∃ id ∈ g.ids, id ∉ taken) ∧
      ∀ id ∈ g.ids, id ∉ taken → ∃ p ∉ taken, (p, id) ∈ g.edges := by
  obtain ⟨-, hfree, hend⟩ := drain_spec W g.nodes.length (holds_agenda W) (by simp)
  rw [List.nil_append] at hend
  refine ⟨(g.drain g.nodes.length g.agenda).1, ?_, ?_⟩
  · simp only [order?] at h
    split at h
    · cases h
    · rename_i hwaiting
      obtain ⟨⟨n, k⟩, hin⟩ := List.exists_mem_of_ne_nil _ (by simpa using hwaiting)
      obtain ⟨hn, rfl, hk⟩ := (hend.mem_waiting n k).mp hin
      exact ⟨n.id, List.mem_map_of_mem hn, fun hdone => hk (hend.closed _ hdone)⟩
  · intro id hid hnot
    obtain ⟨n, hn, rfl⟩ := exists_node hid
    by_contra hnone
    have hzero : g.openInto (g.drain g.nodes.length g.agenda).1 n.id = 0 := by
      rw [openInto_eq_zero_iff]
      intro p hp
      by_contra hpnot
      exact hnone ⟨p, hpnot, (mem_predecessors g p n.id).mp hp⟩
    have hin := (hend.mem_free n).mpr ⟨hn, hnot, hzero⟩
    simp [hfree] at hin

end DependencyGraph

/-! ## Build orders of a solution -/

namespace Solution

/-- A build order names each identity of the solution once, each one after those that it refers to. -/
structure IsBuildOrder (s : Solution) (order : List ProjectId) : Prop where
  nodup : order.Nodup
  mem_iff : ∀ id, id ∈ order ↔ id ∈ s.ids
  forward : ∀ a b, s.Precedes a b → order.idxOf a < order.idxOf b

/-- No identity of the solution refers to itself, directly or through others. -/
def Acyclic (s : Solution) : Prop :=
  ∀ id, ¬ Relation.TransGen s.Precedes id id

variable {s : Solution}

/-- Where some build order exists, nothing precedes itself. -/
theorem IsBuildOrder.acyclic {order : List ProjectId} (h : s.IsBuildOrder order) : s.Acyclic := by
  have hlt : ∀ a b, Relation.TransGen s.Precedes a b → order.idxOf a < order.idxOf b := by
    intro a b hab
    induction hab with
    | single hab => exact h.forward _ _ hab
    | tail _ hbc ih => exact ih.trans (h.forward _ _ hbc)
  intro id hid
  exact lt_irrefl _ (hlt id id hid)

/-- The build orders are the legal orders of all nodes. -/
theorem isBuildOrder_iff (order : List ProjectId) :
    s.IsBuildOrder order ↔ s.graph.Legal [] order ∧ s.graph.ids ⊆ order := by
  constructor
  · intro h
    refine ⟨DependencyGraph.legal_of_forward (by simpa using h.nodup) ?_ ?_, ?_⟩
    · intro id hid
      exact (s.mem_graph_ids id).mpr ((h.mem_iff id).mp hid)
    · intro a b hab
      simpa using h.forward a b ((s.mem_graph_edges a b).mp hab)
    · intro id hid
      exact (h.mem_iff id).mpr ((s.mem_graph_ids id).mp hid)
  · rintro ⟨hlegal, hall⟩
    refine ⟨hlegal.nodup.1, ?_, ?_⟩
    · intro id
      rw [← s.mem_graph_ids id]
      exact ⟨fun h => (hlegal.nodup.2 id h).1, fun h => hall h⟩
    · intro a b hab
      have hb : b ∈ order := hall ((s.mem_graph_ids b).mpr hab.right_mem)
      simpa using hlegal.forward ((s.mem_graph_edges a b).mpr hab) hb

/-- Where nothing precedes itself, no set of identities holds a predecessor of each of its members. -/
theorem Acyclic.exists_first (h : s.Acyclic) {p : ProjectId → Prop} (hp : ∀ id, p id → id ∈ s.ids)
    {id : ProjectId} (hid : p id) : ∃ b, p b ∧ ∀ a, p a → ¬ s.Precedes a b := by
  have hstrict : IsStrictOrder ProjectId (Relation.TransGen s.Precedes) := { irrefl := h }
  have hfinite : {i | p i}.Finite := (List.finite_toSet s.ids).subset hp
  have hwf : {i | p i}.WellFoundedOn (Relation.TransGen s.Precedes) := hfinite.wellFoundedOn
  by_contra hnone
  push Not at hnone
  refine hwf.induction (P := fun _ => False) hid ?_
  intro b hb ih
  obtain ⟨a, ha, hab⟩ := hnone b hb
  exact ih a ha (.single hab)

/-- An order is found exactly where nothing precedes itself. -/
theorem order?_isSome_iff (s : Solution) : s.graph.order?.isSome ↔ s.Acyclic := by
  constructor
  · intro h
    obtain ⟨order, horder⟩ := Option.isSome_iff_exists.mp h
    exact ((isBuildOrder_iff order).mpr (s.graph.order?_legal s.graph_wellFormed horder)).acyclic
  · intro h
    by_contra hnone
    obtain ⟨taken, ⟨id, hid, hnot⟩, hstuck⟩ :=
      s.graph.exists_stuck_of_order?_eq_none s.graph_wellFormed (by simpa using hnone)
    obtain ⟨b, ⟨hb, hbnot⟩, hfirst⟩ := h.exists_first (p := fun i => i ∈ s.ids ∧ i ∉ taken)
      (fun i hi => hi.1) ⟨(s.mem_graph_ids id).mp hid, hnot⟩
    obtain ⟨a, hanot, hab⟩ := hstuck b ((s.mem_graph_ids b).mpr hb) hbnot
    rw [mem_graph_edges] at hab
    exact hfirst a ⟨hab.left_mem, hanot⟩ hab

/-- **The order of a solution is its least build order.** Where nothing precedes itself an order is
given, and the places of its projects come before those of any other build order. -/
theorem dependencyOrder_least (s : Solution) (h : s.Acyclic) :
    ∃ order, s.dependencyOrder.outcome = .ok order ∧ s.IsBuildOrder order ∧
      ∀ other, s.IsBuildOrder other →
        order = other ∨ List.Lex (· < ·) (order.map s.lastPlace) (other.map s.lastPlace) := by
  obtain ⟨order, horder⟩ := Option.isSome_iff_exists.mp (s.order?_isSome_iff.mpr h)
  refine ⟨order, ?_, ?_, ?_⟩
  · simp [dependencyOrder, horder]
  · exact (isBuildOrder_iff order).mpr (s.graph.order?_legal s.graph_wellFormed horder)
  · intro other hother
    obtain ⟨hlegal, hall⟩ := (isBuildOrder_iff other).mp hother
    exact s.graph.order?_least s.graph_wellFormed s.lastPlace (fun n hn => s.lastPlace_eq_place hn)
      horder hlegal hall

/-- Two of these projects share an identity; references are repeated and leave the solution. -/
def sharedIdentity : Solution where
  path := none
  projects :=
    [⟨⟨"B"⟩, "Old", none, [], []⟩, ⟨⟨"A"⟩, "App", none, [], [⟨"B"⟩, ⟨"X"⟩]⟩,
      ⟨⟨"C"⟩, "Core", none, [], []⟩, ⟨⟨"B"⟩, "Base", none, [], [⟨"C"⟩, ⟨"C"⟩]⟩,
      ⟨⟨"D"⟩, "Docs", none, [], []⟩]

theorem acyclic_sharedIdentity : sharedIdentity.Acyclic := by
  suffices horder : sharedIdentity.IsBuildOrder [⟨"C"⟩, ⟨"B"⟩, ⟨"A"⟩, ⟨"D"⟩] from horder.acyclic
  refine ⟨by decide, ?_, ?_⟩
  · intro id
    simp [sharedIdentity, ids]
    tauto
  · have hall : ∀ p ∈ sharedIdentity.projects, ∀ a ∈ p.references, a ∈ sharedIdentity.ids →
        [⟨"C"⟩, ⟨"B"⟩, ⟨"A"⟩, ⟨"D"⟩].idxOf a < [⟨"C"⟩, ⟨"B"⟩, ⟨"A"⟩, ⟨"D"⟩].idxOf p.id := by
      decide
    rintro a b ⟨ha, p, hp, rfl, hr⟩
    exact hall p hp a hr ha

theorem dependencyOrder_least_sharedIdentity :
    sharedIdentity.Acyclic ∧ ∃ order, sharedIdentity.dependencyOrder.outcome = .ok order ∧
      sharedIdentity.IsBuildOrder order ∧ ∀ other, sharedIdentity.IsBuildOrder other →
        order = other ∨
          List.Lex (· < ·) (order.map sharedIdentity.lastPlace) (other.map sharedIdentity.lastPlace) :=
  ⟨acyclic_sharedIdentity, dependencyOrder_least sharedIdentity acyclic_sharedIdentity⟩

/-- The identity that two projects share stands at the later place. -/
example : sharedIdentity.dependencyOrder.outcome.toOption =
    some [⟨"C"⟩, ⟨"B"⟩, ⟨"A"⟩, ⟨"D"⟩] := by
  decide +kernel

end Solution

end SolutionSurvey
