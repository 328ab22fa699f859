import SolutionSurvey.Proofs.Syntax.Forest
import SolutionSurvey.Syntax.Heap
import Mathlib.Data.List.Nodup

/-!
# Ancestors and descendants

In a finite tree whose parents match its children the two walks are dual: a node is given on the way up from
another one exactly if that one is given on the way down from it. The nodes below a node are a block of the
nodes below any node above it, directly after the node itself.

## Main definitions

* `NodeView.IsTree` — a finite tree whose parents match its children.
* `NodeView.DualWalks` — how the walks in a tree belong together.
* `NodeView.Forest.exists_block` — the block of a node.
* `NodeView.IsTree.mem_below_iff` — what is below a node is what it is above of.
* `NodeView.IsTree.exists_dualWalks` — the walks in a tree are dual.
-/

namespace SolutionSurvey.NodeView

variable {ν : Type} {view : NodeView ν}

/-! ## Blocks -/

section Blocks

variable {roots nodes below belowOther : List ν} {n m x : ν}

theorem Forest.roots_subset (h : view.Forest roots nodes) : roots ⊆ nodes := by
  induction h with
  | nil => exact List.Subset.refl _
  | cons _ _ _ _ ih => exact List.cons_subset_cons _ (List.Subset.trans ih (List.subset_append_right _ _))

/-- **The block of a node**: the nodes below a node of some trees come directly after it. -/
theorem Forest.exists_block (h : view.Forest roots nodes) (hn : n ∈ nodes) :
    ∃ before below after, nodes = before ++ n :: (below ++ after) ∧ view.Below n below := by
  induction h with
  | nil => cases hn
  | @cons m children roots below rest hchildren hbelow _ ih ih' =>
      rcases List.mem_cons.mp hn with rfl | hn
      · exact ⟨[], below, rest, rfl, children, hchildren, hbelow⟩
      · rcases List.mem_append.mp hn with hn | hn
        · obtain ⟨before, inner, after, rfl, hinner⟩ := ih hn
          exact ⟨m :: before, inner, after ++ rest, by simp, hinner⟩
        · obtain ⟨before, inner, after, rfl, hinner⟩ := ih' hn
          exact ⟨m :: (below ++ before), inner, after, by simp, hinner⟩

theorem Below.exists_block (h : view.Below m belowOther) (hn : n ∈ belowOther) (hbelow : view.Below n below) :
    ∃ before after, belowOther = before ++ n :: (below ++ after) := by
  obtain ⟨children, -, hforest⟩ := h
  obtain ⟨before, below', after, rfl, hbelow'⟩ := hforest.exists_block hn
  exact ⟨before, after, by rw [hbelow.unique hbelow']⟩

/-- What is below a node is below each node that this one is below of. -/
theorem Below.trans (h : view.Below m belowOther) (hn : n ∈ belowOther) (hbelow : view.Below n below)
    (hx : x ∈ below) : x ∈ belowOther := by
  obtain ⟨before, after, rfl⟩ := h.exists_block hn hbelow
  simp [hx]

/-- Every node is a root or a child. -/
theorem Forest.root_or_child (h : view.Forest roots nodes) (hn : n ∈ nodes) :
    n ∈ roots ∨ ∃ m ∈ nodes, ∃ children, view.children m = .ok children ∧ n ∈ children := by
  induction h with
  | nil => cases hn
  | @cons m children roots below rest hchildren _ _ ih ih' =>
      rcases List.mem_cons.mp hn with rfl | hn
      · exact .inl List.mem_cons_self
      · rcases List.mem_append.mp hn with hn | hn
        · refine .inr ?_
          rcases ih hn with hroot | ⟨p, hp, cs, hcs, hchild⟩
          · exact ⟨m, List.mem_cons_self, children, hchildren, hroot⟩
          · exact ⟨p, by simp [hp], cs, hcs, hchild⟩
        · rcases ih' hn with hroot | ⟨p, hp, cs, hcs, hchild⟩
          · exact .inl (List.mem_cons_of_mem _ hroot)
          · exact .inr ⟨p, by simp [hp], cs, hcs, hchild⟩

/-- Where parents match children, the parent of the roots of some trees is above all their nodes. -/
theorem Forest.exists_ascent {r : ν} (h : view.Forest roots nodes)
    (hroots : ∀ root ∈ roots, view.parent root = .ok (some r))
    (hparent : ∀ m ∈ nodes, ∀ children, view.children m = .ok children →
      ∀ c ∈ children, view.parent c = .ok (some m)) (hx : x ∈ nodes) :
    ∃ above, view.Ascent x (above ++ [r]) r := by
  induction h generalizing r with
  | nil => cases hx
  | @cons n children roots below rest hchildren _ _ ih ih' =>
      have hn : view.Ascent n [r] r := .up (hroots n List.mem_cons_self) (.here r)
      rcases List.mem_cons.mp hx with rfl | hx
      · exact ⟨[], hn⟩
      · rcases List.mem_append.mp hx with hx | hx
        · obtain ⟨above, habove⟩ := ih (hparent n List.mem_cons_self children hchildren)
            (fun m hm => hparent m (by simp [hm])) hx
          exact ⟨above ++ [n], habove.append hn⟩
        · exact ih' (fun root hroot => hroots root (List.mem_cons_of_mem _ hroot))
            (fun m hm => hparent m (by simp [hm])) hx

end Blocks

/-! ## Ways up -/

section Ways

variable {n top top' : ν} {above above' : List ν}

/-- There is one way up to a node that has no parent. -/
theorem Ascent.unique (h : view.Ascent n above top) (h' : view.Ascent n above' top')
    (htop : view.parent top = .ok none) (htop' : view.parent top' = .ok none) : above = above' := by
  induction h generalizing above' with
  | here n =>
      cases h' with
      | here => rfl
      | up hparent _ =>
          rw [htop] at hparent
          cases hparent
  | up hparent _ ih =>
      cases h' with
      | here =>
          rw [htop'] at hparent
          cases hparent
      | up hparent' habove' =>
          cases hparent.symm.trans hparent'
          rw [ih habove' htop]

end Ways

/-! ## Trees -/

/-- The nodes of a finite tree in pre-order: each occurs once, the top node has no parent, and the parent of
every child is the node whose child it is. -/
structure IsTree (view : NodeView ν) (top : ν) (nodes : List ν) : Prop where
  forest : view.Forest [top] nodes
  nodup : nodes.Nodup
  parent_top : view.parent top = .ok none
  parent_child : ∀ n ∈ nodes, ∀ children, view.children n = .ok children →
    ∀ c ∈ children, view.parent c = .ok (some n)

namespace IsTree

variable {top n r x : ν} {nodes below above : List ν}

theorem exists_below_top (h : view.IsTree top nodes) : ∃ below, nodes = top :: below ∧ view.Below top below := by
  cases h.forest with
  | @cons _ children _ below rest hchildren hbelow hrest =>
      cases hrest
      exact ⟨below, by rw [List.append_nil], children, hchildren, hbelow⟩

theorem top_mem (h : view.IsTree top nodes) : top ∈ nodes := by
  obtain ⟨below, rfl, -⟩ := h.exists_below_top
  exact List.mem_cons_self

theorem exists_below (h : view.IsTree top nodes) (hn : n ∈ nodes) : ∃ below, view.Below n below := by
  obtain ⟨-, below, -, -, hbelow⟩ := h.forest.exists_block hn
  exact ⟨below, hbelow⟩

/-- A node and those below it stand one after the other among the nodes of the tree. -/
theorem block_infix (h : view.IsTree top nodes) (hn : n ∈ nodes) (hbelow : view.Below n below) :
    n :: below <:+: nodes := by
  obtain ⟨before, below', after, rfl, hbelow'⟩ := h.forest.exists_block hn
  rw [hbelow.unique hbelow']
  exact ⟨before, after, by simp⟩

theorem nodup_block (h : view.IsTree top nodes) (hn : n ∈ nodes) (hbelow : view.Below n below) :
    (n :: below).Nodup :=
  h.nodup.sublist (h.block_infix hn hbelow).sublist

/-- Every node of a tree is below its top node or is that. -/
theorem exists_ascent (h : view.IsTree top nodes) (hx : x ∈ nodes) : ∃ above, view.Ascent x above top := by
  obtain ⟨below, rfl, children, hchildren, hforest⟩ := h.exists_below_top
  rcases List.mem_cons.mp hx with rfl | hx
  · exact ⟨[], .here x⟩
  · obtain ⟨above, habove⟩ := hforest.exists_ascent
      (h.parent_child top List.mem_cons_self children hchildren)
      (fun m hm => h.parent_child m (List.mem_cons_of_mem _ hm)) hx
    exact ⟨above ++ [top], habove⟩

/-- The parent of a node is a node of the tree, and the node is below it. -/
theorem parent_spec (h : view.IsTree top nodes) (hx : x ∈ nodes) (hparent : view.parent x = .ok (some n)) :
    n ∈ nodes ∧ ∀ below, view.Below n below → x ∈ below := by
  rcases h.forest.root_or_child hx with hroot | ⟨m, hm, children, hchildren, hchild⟩
  · rw [List.mem_singleton.mp hroot, h.parent_top] at hparent
    cases hparent
  · rw [h.parent_child m hm children hchildren x hchild] at hparent
    cases hparent
    refine ⟨hm, ?_⟩
    rintro below ⟨children', hchildren', hforest⟩
    cases hchildren.symm.trans hchildren'
    exact hforest.roots_subset hchild

/-- A way up stays in the tree, and leads to a node that its start is below of. -/
theorem ascent_spec (h : view.IsTree top nodes) (hx : x ∈ nodes) (habove : view.Ascent x above r)
    (hne : above ≠ []) : r ∈ nodes ∧ ∀ below, view.Below r below → x ∈ below := by
  induction habove with
  | here => exact absurd rfl hne
  | @up x p r above hparent habove ih =>
      obtain ⟨hp, hbelow⟩ := h.parent_spec hx hparent
      cases habove with
      | here => exact ⟨hp, hbelow⟩
      | up hparent' habove' =>
          obtain ⟨hr, hpbelow⟩ := ih hp (List.cons_ne_nil _ _)
          refine ⟨hr, fun below hr' => ?_⟩
          obtain ⟨inner, hinner⟩ := h.exists_below hp
          exact hr'.trans (hpbelow below hr') hinner (hbelow inner hinner)

theorem mem_of_mem_above (h : view.IsTree top nodes) (hx : x ∈ nodes) (habove : view.Ascent x above top)
    (hr : r ∈ above) : r ∈ nodes := by
  obtain ⟨lower, upper, rfl⟩ := List.append_of_mem hr
  exact (h.ascent_spec hx habove.split.1 (by simp)).1

/-- **A node is above another one exactly if that one is below it.** -/
theorem mem_below_iff (h : view.IsTree top nodes) (hx : x ∈ nodes) (hr : r ∈ nodes)
    (habove : view.Ascent x above top) (hbelow : view.Below r below) : x ∈ below ↔ r ∈ above := by
  constructor
  · intro hmem
    obtain ⟨children, hchildren, hforest⟩ := hbelow
    have hsub : below ⊆ nodes := fun m hm =>
      (h.block_infix hr ⟨children, hchildren, hforest⟩).subset (List.mem_cons_of_mem _ hm)
    obtain ⟨lower, hlower⟩ := hforest.exists_ascent (h.parent_child r hr children hchildren)
      (fun m hm => h.parent_child m (hsub hm)) hmem
    obtain ⟨upper, hupper⟩ := h.exists_ascent hr
    rw [habove.unique (hlower.append hupper) h.parent_top h.parent_top]
    simp
  · intro hmem
    obtain ⟨lower, upper, rfl⟩ := List.append_of_mem hmem
    exact (h.ascent_spec hx habove.split.1 (by simp)).2 below hbelow

/-- No node is on the way up twice. -/
theorem nodup_above (h : view.IsTree top nodes) (hx : x ∈ nodes) (habove : view.Ascent x above top) :
    above.Nodup := by
  induction habove with
  | here => exact List.nodup_nil
  | @up x p top above hparent habove ih =>
      obtain ⟨hp, -⟩ := h.parent_spec hx hparent
      refine List.nodup_cons.mpr ⟨fun hmem => ?_, ih h hp⟩
      obtain ⟨below, hbelow⟩ := h.exists_below hp
      have hself := (h.mem_below_iff hp hp habove hbelow).mpr hmem
      exact (List.nodup_cons.mp (h.nodup_block hp hbelow)).1 hself

end IsTree

/-! ## The walks -/

/-- How the walks in a tree belong together, where `up` has what they give on the way up from a node, and
`down` what they give on the way down from it, all nodes or the named ones. -/
structure DualWalks (view : NodeView ν) (top : ν) (nodes : List ν) (up : ν → List ν)
    (down : Bool → ν → List ν) : Prop where
  /-- The walk towards the root gives these nodes and ends. -/
  up_answers : ∀ x ∈ nodes, ∀ k, answers (ParentWalk.next view) k (.start x false) = yields (up x) none k
  /-- The walk downwards gives these nodes and ends. -/
  down_answers : ∀ r ∈ nodes, ∀ namedOnly fuel, nodes.length < fuel → ∀ k,
    answers (DescendantWalk.next view fuel) k (.start r namedOnly) = yields (down namedOnly r) none k
  mem_up_iff : ∀ x ∈ nodes, ∀ r ∈ nodes, r ∈ up x ↔ x ∈ down false r
  nodup_up : ∀ x ∈ nodes, (up x).Nodup
  nodup_down : ∀ r ∈ nodes, ∀ namedOnly, (down namedOnly r).Nodup
  /-- A node above another one, and below a third one, comes before it on the way down from that. -/
  sublist_down : ∀ x ∈ nodes, ∀ r ∈ nodes, ∀ a ∈ up x, r ∈ up a → [a, x].Sublist (down false r)
  /-- What a walk down from a node gives is a block of what the walk down from the top node gives, directly
  after the node itself if that is given. -/
  block : ∀ r ∈ nodes, r ≠ top → ∀ namedOnly, ∃ before after,
    down namedOnly top = before ++ down namedOnly r ++ after ∧
      (namedOnly = false ∨ view.isNamed r = true → before.getLast? = some r)

theorem filter_gives_false (ns : List ν) : ns.filter (DescendantWalk.gives view false) = ns :=
  List.filter_eq_self.mpr fun _ _ => rfl

/-- A block stays a block when nodes are left out, directly after its node if that is not left out. -/
theorem exists_filter_block (p : ν → Bool) (before below after : List ν) (n : ν) :
    ∃ before' after', (before ++ n :: (below ++ after)).filter p = before' ++ below.filter p ++ after' ∧
      (p n = true → before'.getLast? = some n) := by
  rw [List.filter_append]
  by_cases hn : p n = true
  · refine ⟨before.filter p ++ [n], after.filter p, ?_, fun _ => by simp⟩
    simp [List.filter_cons_of_pos hn]
  · refine ⟨before.filter p, after.filter p, ?_, fun hn' => absurd hn' hn⟩
    simp [List.filter_cons_of_neg hn]

namespace IsTree

variable {top r x a : ν} {nodes above aboveA below : List ν}

/-- A node between two others comes before the lower one among the nodes below the upper one. -/
theorem pair_sublist_below (h : view.IsTree top nodes) (hx : x ∈ nodes) (hr : r ∈ nodes)
    (habove : view.Ascent x above top) (ha : a ∈ above) (haboveA : view.Ascent a aboveA top)
    (har : r ∈ aboveA) (hbelow : view.Below r below) : [a, x].Sublist below := by
  have hanode := h.mem_of_mem_above hx habove ha
  obtain ⟨belowA, hbelowA⟩ := h.exists_below hanode
  have hxa := (h.mem_below_iff hx hanode habove hbelowA).mpr ha
  have har' := (h.mem_below_iff hanode hr haboveA hbelow).mpr har
  obtain ⟨before, after, rfl⟩ := hbelow.exists_block har' hbelowA
  have hpair : [a, x].Sublist (a :: (belowA ++ after)) :=
    (List.singleton_sublist.mpr (List.mem_append_left _ hxa)).cons_cons a
  exact hpair.trans (List.sublist_append_right _ _)

/-- **The walks in a finite tree whose parents match its children are dual.** -/
theorem exists_dualWalks (h : view.IsTree top nodes) : ∃ up down, view.DualWalks top nodes up down := by
  have hup : ∀ x, ∃ above, x ∈ nodes → view.Ascent x above top := fun x => by
    by_cases hx : x ∈ nodes
    · exact (h.exists_ascent hx).imp fun _ habove _ => habove
    · exact ⟨[], fun hx' => absurd hx' hx⟩
  have hdown : ∀ r, ∃ below, r ∈ nodes → view.Below r below := fun r => by
    by_cases hr : r ∈ nodes
    · exact (h.exists_below hr).imp fun _ hbelow _ => hbelow
    · exact ⟨[], fun hr' => absurd hr' hr⟩
  choose up hup using hup
  choose below hbelow using hdown
  refine ⟨up, fun namedOnly r => (below r).filter (DescendantWalk.gives view namedOnly), ?_⟩
  constructor
  case up_answers =>
    intro x hx k
    exact ParentWalk.answers_start (hup x hx) false (.inl h.parent_top)
  case down_answers =>
    intro r hr namedOnly fuel hfuel k
    have hlength := (h.block_infix hr (hbelow r hr)).length_le
    rw [List.length_cons] at hlength
    exact DescendantWalk.answers_start (hbelow r hr) (by omega) namedOnly k
  case mem_up_iff =>
    intro x hx r hr
    rw [filter_gives_false, h.mem_below_iff hx hr (hup x hx) (hbelow r hr)]
  case nodup_up => exact fun x hx => h.nodup_above hx (hup x hx)
  case nodup_down =>
    intro r hr namedOnly
    exact (List.nodup_cons.mp (h.nodup_block hr (hbelow r hr))).2.filter _
  case sublist_down =>
    intro x hx r hr a ha har
    have haboveA := hup a (h.mem_of_mem_above hx (hup x hx) ha)
    rw [filter_gives_false]
    exact h.pair_sublist_below hx hr (hup x hx) ha haboveA har (hbelow r hr)
  case block =>
    intro r hr hne namedOnly
    obtain ⟨belowTop, rfl, hbelowTop⟩ := h.exists_below_top
    have hrbelow : r ∈ below top := by
      rw [(hbelow top h.top_mem).unique hbelowTop]
      exact (List.mem_cons.mp hr).resolve_left hne
    obtain ⟨before, after, heq⟩ := (hbelow top h.top_mem).exists_block hrbelow (hbelow r hr)
    obtain ⟨before', after', hfilter, hlast⟩ :=
      exists_filter_block (DescendantWalk.gives view namedOnly) before (below r) after r
    exact ⟨before', after', by rw [heq, hfilter],
      fun hgives => hlast (by simpa [DescendantWalk.gives] using hgives)⟩

/-- A tree of five nodes, one of which is not named and has a child. -/
def branchingHeap : NodeHeap :=
  ⟨#[{ children := some [.node 1, .node 2], parent := some (.value .null) },
    { children := some [.node 3], parent := some (.node 0), isNamed := some (.bool false) },
    { children := some [.node 4], parent := some (.node 0) },
    { children := some [], parent := some (.node 1) },
    { children := some [], parent := some (.node 2) }]⟩

theorem exists_dualWalks_branchingHeap :
    let nodes : List Thing := [.node 0, .node 1, .node 3, .node 2, .node 4]
    branchingHeap.view.IsTree (.node 0) nodes ∧
      ∃ up down, branchingHeap.view.DualWalks (.node 0) nodes up down ∧
        up (.node 3) = [.node 1, .node 0] ∧ down true (.node 0) = [.node 3, .node 2, .node 4] := by
  intro nodes
  have hbelow : branchingHeap.view.Below (.node 0) [.node 1, .node 3, .node 2, .node 4] :=
    ⟨[.node 1, .node 2], rfl, .cons rfl (.cons rfl .nil .nil) (.cons rfl (.cons rfl .nil .nil) .nil)⟩
  have habove : branchingHeap.view.Ascent (.node 3) [.node 1, .node 0] (.node 0) :=
    .up rfl (.up rfl (.here _))
  have htree : branchingHeap.view.IsTree (.node 0) nodes := by
    constructor
    case forest =>
      obtain ⟨children, hchildren, hforest⟩ := hbelow
      exact .cons hchildren hforest .nil
    case nodup => simp [nodes]
    case parent_top => rfl
    case parent_child =>
      intro n hn children hchildren c hc
      simp only [nodes, List.mem_cons, List.not_mem_nil, or_false] at hn
      rcases hn with rfl | rfl | rfl | rfl | rfl <;> cases hchildren <;> simp at hc
      · rcases hc with rfl | rfl <;> rfl
      · subst hc
        rfl
      · subst hc
        rfl
  obtain ⟨up, down, hwalks⟩ := htree.exists_dualWalks
  refine ⟨htree, up, down, hwalks, yields_inj fun k => ?_, yields_inj fun k => ?_⟩
  · rw [← hwalks.up_answers (.node 3) (by simp [nodes]) k]
    exact ParentWalk.answers_start habove false (.inl rfl)
  · rw [← hwalks.down_answers (.node 0) (by simp [nodes]) true 6 (by simp [nodes]) k]
    exact DescendantWalk.answers_start hbelow (by simp) true k

end IsTree

end SolutionSurvey.NodeView
