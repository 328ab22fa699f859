import SolutionSurvey.Proofs.Solution.Order

/-!
# What the walk finds is a circle

The path of the walk is a chain of edges without repetition, so that an edge back to it closes a circle
of exactly the nodes from there on. The nodes that were left are settled: each leads only to nodes that
were left before it, so that no circle runs through them. A walk that leaves all nodes therefore shows
that there is no circle, and a solution without an order always has one to report.

## Main definitions

* `IsCircle` — the closed chains of distinct identities.
* `DependencyGraph.Trail`, `DependencyGraph.Settled` — the paths of the walk, and what it leaves.
* `DependencyGraph.search_good` — what a walk finds or leaves.
* `Solution.dependencyOrder_error_iff` — when a circle is reported, and which.
-/

namespace SolutionSurvey

/-- A closed chain of distinct identities: each is related to the next one, and the last one to the
first. -/
structure IsCircle (r : ProjectId → ProjectId → Prop) (ids : List ProjectId) : Prop where
  ne_nil : ids ≠ []
  nodup : ids.Nodup
  chain : ids.IsChain r
  closes : ∀ a ∈ ids.getLast?, ∀ b ∈ ids.head?, r a b

namespace DependencyGraph

/-- There is an edge from `a` to `b`. -/
def Edge (g : DependencyGraph) (a b : ProjectId) : Prop := (a, b) ∈ g.edges

/-! ## Paths -/

/-- A path of the walk, last node first: a chain of edges through distinct nodes. -/
structure Trail (g : DependencyGraph) (path : List ProjectId) : Prop where
  chain : path.IsChain fun b a => g.Edge a b
  nodup : path.Nodup
  subset : path ⊆ g.ids

variable {g : DependencyGraph}

theorem Trail.cons {path : List ProjectId} (h : g.Trail path) {t : ProjectId} (ht : t ∈ g.ids)
    (hnew : t ∉ path) (hedge : ∀ b ∈ path.head?, g.Edge b t) : g.Trail (t :: path) where
  chain := List.isChain_cons.mpr ⟨hedge, h.chain⟩
  nodup := List.nodup_cons.mpr ⟨hnew, h.nodup⟩
  subset := List.cons_subset.mpr ⟨ht, h.subset⟩

/-- No path is longer than there are nodes. -/
theorem Trail.length_le {path : List ProjectId} (h : g.Trail path) : path.length ≤ g.nodes.length := by
  simpa [ids] using (h.nodup.subperm h.subset).length_le

/-- An edge from the end of a path back to one of its nodes closes a circle. -/
theorem Trail.isCircle {path : List ProjectId} (h : g.Trail path) {t : ProjectId} (ht : t ∈ path)
    (hedge : ∀ b ∈ path.head?, g.Edge b t) :
    IsCircle g.Edge (t :: (path.takeWhile (· != t)).reverse) ∧
      t :: (path.takeWhile (· != t)).reverse ⊆ g.ids := by
  obtain ⟨lead, rest, rfl, hnot⟩ := List.eq_append_cons_of_mem ht
  have hlead : (lead ++ t :: rest).takeWhile (· != t) = lead := by
    rw [List.takeWhile_append_of_pos]
    · simp
    · intro b hb
      simpa using fun h : b = t => hnot (h ▸ hb)
  have hrev : t :: lead.reverse = (lead ++ [t]).reverse := by simp
  have hpart : lead ++ [t] ⊆ lead ++ t :: rest := by simp
  rw [hlead, hrev]
  refine ⟨⟨by simp, ?_, ?_, ?_⟩, ?_⟩
  · rw [List.nodup_reverse]
    exact h.nodup.sublist (by simp)
  · rw [List.isChain_reverse]
    exact (List.isChain_split.mp h.chain).1
  · intro a ha b hb
    rw [List.getLast?_reverse] at ha
    rw [List.head?_reverse, List.getLast?_append_cons, List.getLast?_singleton] at hb
    cases hb
    apply hedge
    cases lead <;> simpa using ha
  · intro a ha
    exact h.subset (hpart (List.mem_reverse.mp ha))

/-! ## What is left -/

/-- Nodes in the order in which the walk left them, last first: each leads only to earlier ones. -/
def Settled (g : DependencyGraph) : List ProjectId → Prop
  | [] => True
  | id :: rest => id ∉ rest ∧ g.successors id ⊆ rest ∧ g.Settled rest

theorem Settled.closed {gone : List ProjectId} (h : g.Settled gone) {a b : ProjectId}
    (ha : a ∈ gone) (hab : g.Edge a b) : b ∈ gone := by
  induction gone with
  | nil => cases ha
  | cons id rest ih =>
      obtain ⟨-, hsucc, hrest⟩ := h
      rcases List.mem_cons.mp ha with rfl | ha
      · exact List.mem_cons_of_mem _ (hsucc ((mem_successors g a b).mpr hab))
      · exact List.mem_cons_of_mem _ (ih hrest ha)

theorem Settled.closed_transGen {gone : List ProjectId} (h : g.Settled gone) {a b : ProjectId}
    (ha : a ∈ gone) (hab : Relation.TransGen g.Edge a b) : b ∈ gone := by
  induction hab with
  | single hab => exact h.closed ha hab
  | tail _ hbc ih => exact h.closed ih hbc

/-- No circle runs through nodes that were left. -/
theorem Settled.irrefl {gone : List ProjectId} (h : g.Settled gone) {a : ProjectId} (ha : a ∈ gone) :
    ¬ Relation.TransGen g.Edge a a := by
  induction gone with
  | nil => cases ha
  | cons id rest ih =>
      obtain ⟨hnew, hsucc, hrest⟩ := h
      rcases List.mem_cons.mp ha with rfl | ha
      · intro hloop
        obtain ⟨b, hab, hba⟩ := Relation.TransGen.head'_iff.mp hloop
        have hb : b ∈ rest := hsucc ((mem_successors g a b).mpr hab)
        rcases Relation.reflTransGen_iff_eq_or_transGen.mp hba with rfl | hba
        · exact hnew hb
        · exact hnew (hrest.closed_transGen hb hba)
      · exact ih hrest ha

/-! ## The walk -/

/-- How a walk from the end of `path` over the nodes `seen` may end: with a circle, or with settled
nodes that hold those left before and all of `seen`, and none of the path. -/
def Search.Good (g : DependencyGraph) (path left seen : List ProjectId) : Search → Prop
  | .circle c => IsCircle g.Edge c ∧ c ⊆ g.ids
  | .left gone => g.Settled gone ∧ gone ⊆ g.ids ∧ left ⊆ gone ∧ seen ⊆ gone ∧ path.Disjoint gone

/-- One more edge from the end of a path keeps a walk good, if the walk below it is good. -/
theorem Search.Good.along {path left seen : List ProjectId} {s : Search}
    (h : s.Good g path left seen) (hpath : g.Trail path) {t : ProjectId} (ht : t ∈ g.ids)
    (hedge : ∀ b ∈ path.head?, g.Edge b t) {below : List ProjectId → Search}
    (hbelow : ∀ gone, g.Settled gone → gone ⊆ g.ids → (t :: path).Disjoint gone →
      g.Trail (t :: path) → (below gone).Good g (t :: path) gone (g.successors t)) :
    (s.along path t below).Good g path left (t :: seen) := by
  rcases s with c | gone
  · exact h
  · obtain ⟨hsettled, hsub, hleft, hseen, hdisjoint⟩ := h
    simp only [Search.along, List.contains_iff_mem]
    by_cases hgone : t ∈ gone
    · simp only [hgone, if_true]
      exact ⟨hsettled, hsub, hleft, List.cons_subset.mpr ⟨hgone, hseen⟩, hdisjoint⟩
    · by_cases hback : t ∈ path
      · simp only [hgone, hback, if_true, if_false]
        exact hpath.isCircle hback hedge
      · simp only [hgone, hback, if_false]
        have hnext := hbelow gone hsettled hsub (List.disjoint_cons_left.mpr ⟨hgone, hdisjoint⟩)
          (hpath.cons ht hback hedge)
        rcases hend : below gone with c | gone'
        · rw [hend] at hnext
          exact hnext
        · rw [hend] at hnext
          obtain ⟨hsettled', hsub', hmore, hsucc, hdisjoint'⟩ := hnext
          obtain ⟨hnew, hdisjoint'⟩ := List.disjoint_cons_left.mp hdisjoint'
          refine ⟨⟨hnew, hsucc, hsettled'⟩, List.cons_subset.mpr ⟨ht, hsub'⟩, ?_, ?_, ?_⟩
          · exact List.subset_cons_of_subset t (List.Subset.trans hleft hmore)
          · exact List.cons_subset_cons t (List.Subset.trans hseen hmore)
          · exact List.disjoint_cons_right.mpr ⟨hback, hdisjoint'⟩

/-- The edges from the end of a path one after another; those met so far are listed last first. -/
theorem Search.Good.foldl_along {path left seen targets : List ProjectId} {s : Search}
    (h : s.Good g path left seen) (hpath : g.Trail path) (htargets : targets ⊆ g.ids)
    (hedges : ∀ b ∈ path.head?, ∀ t ∈ targets, g.Edge b t)
    {below : ProjectId → List ProjectId → Search}
    (hbelow : ∀ t gone, g.Settled gone → gone ⊆ g.ids → (t :: path).Disjoint gone →
      g.Trail (t :: path) → (below t gone).Good g (t :: path) gone (g.successors t)) :
    (targets.foldl (fun s t => s.along path t (below t)) s).Good g path left
      (targets.reverse ++ seen) := by
  induction targets generalizing seen s with
  | nil => exact h
  | cons t targets ih =>
      obtain ⟨ht, hrest⟩ := List.cons_subset.mp htargets
      have hstep := h.along hpath ht (fun b hb => hedges b hb t List.mem_cons_self) (hbelow t)
      have hend := ih hstep hrest fun b hb u hu => hedges b hb u (List.mem_cons_of_mem t hu)
      simpa using hend

/-- What a walk finds is a circle, and what it leaves is settled. The fuel never runs out, for no path
is longer than there are nodes. -/
theorem search_good (W : g.WellFormed) (fuel : ℕ) {path left targets : List ProjectId}
    (hfuel : g.nodes.length < fuel + path.length) (hpath : g.Trail path) (hsettled : g.Settled left)
    (hsub : left ⊆ g.ids) (hdisjoint : path.Disjoint left) (htargets : targets ⊆ g.ids)
    (hedges : ∀ b ∈ path.head?, ∀ t ∈ targets, g.Edge b t) :
    (g.search fuel path left targets).Good g path left targets.reverse := by
  induction fuel generalizing path left targets with
  | zero =>
      have := hpath.length_le
      omega
  | succ fuel ih =>
      have hstart : (Search.left left).Good g path left [] :=
        ⟨hsettled, hsub, List.Subset.refl left, List.nil_subset left, hdisjoint⟩
      rw [search, ← List.append_nil targets.reverse]
      refine hstart.foldl_along hpath htargets hedges ?_
      intro t gone hs hg hd htrail
      have hlen : g.nodes.length < fuel + (t :: path).length := by
        simp only [List.length_cons]
        omega
      have hsucc : g.successors t ⊆ g.ids := by
        intro u hu
        exact (W.edge_ids ((mem_successors g t u).mp hu)).2
      have hbelow := ih hlen htrail hs hg hd hsucc ?_
      · rcases hend : g.search fuel (t :: path) gone (g.successors t) with c | gone'
        · rw [hend] at hbelow
          exact hbelow
        · rw [hend] at hbelow
          obtain ⟨hs', hg', hmore, hseen, hd'⟩ := hbelow
          exact ⟨hs', hg', hmore, fun u hu => hseen (List.mem_reverse.mpr hu), hd'⟩
      · intro b hb u hu
        cases hb
        exact (mem_successors g t u).mp hu

/-- The walk from all nodes finds a circle, unless there is none. -/
theorem cycle?_spec (W : g.WellFormed) :
    (∀ c, g.cycle? = some c → IsCircle g.Edge c ∧ c ⊆ g.ids) ∧
      (g.cycle? = none → ∀ id, ¬ Relation.TransGen g.Edge id id) := by
  have htrail : g.Trail [] := ⟨.nil, List.nodup_nil, List.nil_subset _⟩
  have hend : (g.search (g.nodes.length + 1) [] [] g.ids).Good g [] [] g.ids.reverse :=
    search_good W (g.nodes.length + 1) (by simp) htrail trivial (List.nil_subset _)
      (List.disjoint_nil_left _) (List.Subset.refl _) (by simp)
  rcases hsearch : g.search (g.nodes.length + 1) [] [] g.ids with c | gone
  · rw [hsearch] at hend
    simpa [cycle?, hsearch, Search.Good] using hend
  · rw [hsearch] at hend
    obtain ⟨hsettled, -, -, hseen, -⟩ := hend
    simp only [cycle?, hsearch, reduceCtorEq, false_implies, implies_true, true_and, true_implies]
    intro id hloop
    obtain ⟨b, hab, -⟩ := Relation.TransGen.head'_iff.mp hloop
    have hid : id ∈ gone := hseen (List.mem_reverse.mpr (W.edge_ids hab).1)
    exact hsettled.irrefl hid hloop

end DependencyGraph

/-! ## The report of a circle -/

namespace Solution

theorem edge_graph (s : Solution) : s.graph.Edge = s.Precedes := by
  funext a b
  exact propext (s.mem_graph_edges a b)

/-- **A circle is reported exactly where one exists.** What is reported are the names of a closed chain
of distinct identities of the solution, each of which precedes the next one. -/
theorem dependencyOrder_error_iff (s : Solution) :
    ((∃ names, s.dependencyOrder.outcome = .error (.report (.dependencyCycle names))) ↔
        ∃ id, Relation.TransGen s.Precedes id id) ∧
      ∀ f, s.dependencyOrder.outcome = .error f →
        ∃ names circle, f = .report (.dependencyCycle names) ∧ IsCircle s.Precedes circle ∧
          circle ⊆ s.ids ∧
          names.map some = circle.map fun id => (s.project? id).map Project.name := by
  obtain ⟨hfound, hnone⟩ := DependencyGraph.cycle?_spec s.graph_wellFormed
  rw [edge_graph] at hfound hnone
  have horder := s.order?_isSome_iff
  rcases hcase : s.graph.order? with _ | order
  · have hcyclic : ∃ id, Relation.TransGen s.Precedes id id := by
      simpa [hcase, Acyclic] using horder
    obtain ⟨id, hid⟩ := hcyclic
    obtain ⟨circle, hcircle⟩ : ∃ circle, s.graph.cycle? = some circle := by
      by_contra h
      exact hnone (by simpa [Option.eq_none_iff_forall_ne_some] using h) id hid
    obtain ⟨hclosed, hsub⟩ := hfound circle hcircle
    have hin : circle ⊆ s.ids := fun i hi => (s.mem_graph_ids i).mp (hsub hi)
    simp only [dependencyOrder, hcase, hcircle, Option.getD_some]
    refine ⟨⟨fun _ => ⟨id, hid⟩, fun _ => ⟨_, rfl⟩⟩, ?_⟩
    rintro f ⟨⟩
    refine ⟨_, circle, rfl, hclosed, hin, ?_⟩
    rw [List.map_map]
    refine List.map_congr_left fun i hi => ?_
    exact (s.project?_name_eq_nameOf (hin hi)).symm
  · have hacyclic : ∀ id, ¬ Relation.TransGen s.Precedes id id := by
      simpa [hcase, Acyclic] using horder
    simp [dependencyOrder, hcase, hacyclic]

end Solution

end SolutionSurvey
