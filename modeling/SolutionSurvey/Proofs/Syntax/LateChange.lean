import SolutionSurvey.Proofs.Syntax.Forest
import SolutionSurvey.Syntax.Heap

/-!
# Walks over nodes that change

A lazy walk may be under way while nodes are changed. As long as no node is changed after the walk read it,
its answers are those of a walk over the nodes as they are in the end: the links that a request reads are
the ones that stay.

## Main definitions

* `Turn`, `HeapWalk` — what happens while a walk is under way, and walks whose nodes may change.
* `HeapWalk.Timely` — no node is changed after it was read.
* `HeapWalk.Lawful.answersIn_eq` — timely changes might as well have been made before.
* `HeapWalk.follows_late_changes` — what walks downwards and towards the root give.
-/

namespace SolutionSurvey

/-! ## Reading the same -/

/-- Two ways of reading tell the same nodes to be named and agree on the links of some nodes. -/
structure NodeView.Agree {ν : Type} (ns : List ν) (view view' : NodeView ν) : Prop where
  isNamed : ∀ n, view'.isNamed n = view.isNamed n
  children : ∀ n ∈ ns, view'.children n = view.children n
  parent : ∀ n ∈ ns, view'.parent n = view.parent n

namespace NodeView.Agree

variable {ν : Type} {view view' view'' : NodeView ν} {ns ms : List ν}

theorem refl : view.Agree ns view :=
  ⟨fun _ => rfl, fun _ _ => rfl, fun _ _ => rfl⟩

theorem trans (h : NodeView.Agree ns view view') (h' : NodeView.Agree ns view' view'') :
    NodeView.Agree ns view view'' :=
  ⟨fun n => (h'.isNamed n).trans (h.isNamed n), fun n hn => (h'.children n hn).trans (h.children n hn),
    fun n hn => (h'.parent n hn).trans (h.parent n hn)⟩

theorem mono (h : NodeView.Agree ns view view') (hsub : ms ⊆ ns) : NodeView.Agree ms view view' :=
  ⟨h.isNamed, fun n hn => h.children n (hsub hn), fun n hn => h.parent n (hsub hn)⟩

end NodeView.Agree

namespace DescendantWalk

variable {ν : Type} {view view' : NodeView ν}

/-- The node whose children a step of a walk reads. -/
def entered? (view : NodeView ν) : DescendantWalk ν → Option ν
  | .start root _ => some root
  | .below n _ _ => some n
  | .pending (n :: _) namedOnly => if gives view namedOnly n then none else some n
  | _ => none

/-- The nodes whose children a walk reads for its next answer. -/
def reads (view : NodeView ν) : ℕ → DescendantWalk ν → List ν
  | 0, _ => []
  | fuel + 1, w =>
    (entered? view w).toList ++
      match step view w with
      | (some _, _) => []
      | (none, w') => reads view fuel w'

theorem enter_congr {n : ν} (h : view'.children n = view.children n) (stack : List ν) (namedOnly : Bool) :
    enter view' n stack namedOnly = enter view n stack namedOnly := by
  rw [enter, enter, h]

/-- A step depends on the links of the node it reads. -/
theorem step_congr {w : DescendantWalk ν} (h : view.Agree (entered? view w).toList view') :
    step view' w = step view w := by
  match w with
  | .start root namedOnly => exact enter_congr (h.children root (by simp [entered?])) _ _
  | .below n stack namedOnly => exact enter_congr (h.children n (by simp [entered?])) _ _
  | .pending [] _ => rfl
  | .pending (n :: stack) namedOnly =>
      have hgives : gives view' namedOnly n = gives view namedOnly n := by rw [gives, gives, h.isNamed]
      rw [step, step, ← gives, ← gives, hgives]
      split
      · rfl
      · next hpassed => exact enter_congr (h.children n (by simp [entered?, hpassed])) _ _
  | .done => rfl

/-- The next answer depends on the links of the nodes read for it. -/
theorem next_congr {fuel : ℕ} {w : DescendantWalk ν} (h : view.Agree (w.reads view fuel) view') :
    w.next view' fuel = w.next view fuel := by
  induction fuel generalizing w with
  | zero => rfl
  | succ fuel ih =>
      rw [reads] at h
      rw [next, next, step_congr (h.mono (List.subset_append_left _ _))]
      rcases hstep : step view w with ⟨_ | y, w'⟩
      · rw [hstep] at h
        exact ih (h.mono (List.subset_append_right _ _))
      · rfl

end DescendantWalk

namespace ParentWalk

variable {ν : Type} {view view' : NodeView ν}

/-- The nodes whose parents a walk reads for its next answer. -/
def reads : ParentWalk ν → List ν
  | .start n false => [n]
  | .above n => [n]
  | _ => []

theorem next_congr {w : ParentWalk ν} (h : view.Agree w.reads view') : w.next view' = w.next view := by
  match w with
  | .start n true => rfl
  | .start n false | .above n =>
      have hparent := h.parent n (by simp [reads])
      rw [next, next, climb, climb, hparent]
  | .done => rfl

end ParentWalk

/-! ## Heaps that change -/

namespace NodeHeap

variable {h : NodeHeap} {t t' : Thing} {change : HeapNode → HeapNode}

/-- A change of one node leaves the others as they are. -/
theorem node?_modify_of_ne (hne : t ≠ t') : (h.modify t change).node? t' = h.node? t' := by
  match t, t' with
  | .value _, _ => rfl
  | .node _, .value _ => rfl
  | .node i, .node j =>
      have hij : i ≠ j := fun hij => hne (congrArg Thing.node hij)
      simp [modify, node?, Array.getElem?_modify, hij]

/-- A change keeps the attributes that it does not concern. -/
theorem bind_node?_modify {α : Type} {get : HeapNode → Option α} (hkeep : ∀ n, get (change n) = get n) :
    ((h.modify t change).node? t').bind get = (h.node? t').bind get := by
  match t, t' with
  | .value _, _ => rfl
  | .node _, .value _ => rfl
  | .node i, .node j =>
      simp only [modify, node?, Array.getElem?_modify]
      split
      · next hij => cases h.nodes[j]? <;> simp [hkeep]
      · rfl

/-- A change of a node that keeps its name keeps the links of the others. -/
theorem agree_modify {ns : List Thing} (hkeep : ∀ n, (change n).isNamed = n.isNamed) (ht : t ∉ ns) :
    h.view.Agree ns (h.modify t change).view where
  isNamed t' := by simp only [view, bind_node?_modify hkeep]
  children t' ht' := by
    have hne : t ≠ t' := fun heq => ht (heq ▸ ht')
    simp only [view, read, node?_modify_of_ne hne]
  parent t' ht' := by
    have hne : t ≠ t' := fun heq => ht (heq ▸ ht')
    simp only [view, read, node?_modify_of_ne hne]

end NodeHeap

/-! ## Walks under way -/

/-- What happens while a walk is under way: its next node is asked for, or a node is changed. -/
inductive Turn (α : Type) where
  | ask
  | change (node : Thing) (value : α)

/-- How often the next node is asked for. -/
def Turn.asked {α : Type} : List (Turn α) → ℕ
  | [] => 0
  | .ask :: turns => asked turns + 1
  | .change .. :: turns => asked turns

/-- A walk over a heap: its next answer, the nodes that it reads for that, and the way in which a node is
changed. -/
structure HeapWalk (σ α : Type) where
  next : NodeView Thing → σ → Yield Thing × σ
  reads : NodeView Thing → σ → List Thing
  change : NodeHeap → Thing → α → NodeHeap

namespace HeapWalk

variable {σ α : Type}

/-- The answers of a walk in some turns. -/
def answersIn (W : HeapWalk σ α) : List (Turn α) → NodeHeap → σ → List (Yield Thing)
  | [], _, _ => []
  | .ask :: turns, h, s => (W.next h.view s).1 :: W.answersIn turns h (W.next h.view s).2
  | .change t a :: turns, h, s => W.answersIn turns (W.change h t a) s

/-- The nodes that a walk reads in some turns. -/
def readIn (W : HeapWalk σ α) : List (Turn α) → NodeHeap → σ → List Thing
  | [], _, _ => []
  | .ask :: turns, h, s => W.reads h.view s ++ W.readIn turns h (W.next h.view s).2
  | .change t a :: turns, h, s => W.readIn turns (W.change h t a) s

/-- The heap after some turns. -/
def changed (W : HeapWalk σ α) : List (Turn α) → NodeHeap → NodeHeap
  | [], h => h
  | .ask :: turns, h => W.changed turns h
  | .change t a :: turns, h => W.changed turns (W.change h t a)

/-- No node is changed after it was read. -/
def Timely (W : HeapWalk σ α) (turns : List (Turn α)) (h : NodeHeap) (s : σ) : Prop :=
  ∀ before t a after, turns = before ++ .change t a :: after → t ∉ W.readIn before h s

/-- What a walk needs of its parts: an answer depends on the links of the nodes read for it, and a change
keeps those of all other nodes. -/
structure Lawful (W : HeapWalk σ α) : Prop where
  next_congr : ∀ {view view' : NodeView Thing} {s : σ}, view.Agree (W.reads view s) view' →
    W.next view' s = W.next view s
  agree_change : ∀ {h : NodeHeap} {t : Thing} {a : α} {ns : List Thing}, t ∉ ns →
    h.view.Agree ns (W.change h t a).view

variable {W : HeapWalk σ α} {turns : List (Turn α)} {h : NodeHeap} {s : σ}

theorem Timely.of_ask (htimely : W.Timely (.ask :: turns) h s) :
    W.Timely turns h (W.next h.view s).2 := by
  rintro before t a after rfl hread
  exact htimely (.ask :: before) t a after rfl (List.mem_append_right _ hread)

theorem Timely.of_change {t : Thing} {a : α} (htimely : W.Timely (.change t a :: turns) h s) :
    W.Timely turns (W.change h t a) s := by
  rintro before t' a' after rfl hread
  exact htimely (.change t a :: before) t' a' after rfl hread

theorem Timely.nil : W.Timely [] h s := by
  intro before t a after hsplit
  simp at hsplit

theorem Timely.ask (htimely : W.Timely turns h (W.next h.view s).2)
    (hnever : ∀ t a, .change t a ∈ turns → t ∉ W.reads h.view s) : W.Timely (.ask :: turns) h s := by
  intro before t a after hsplit
  cases before with
  | nil => cases hsplit
  | cons turn before =>
      obtain ⟨rfl, rfl⟩ := List.cons.inj hsplit
      rw [readIn, List.mem_append, not_or]
      exact ⟨hnever t a (by simp), htimely before t a after rfl⟩

theorem Timely.change {t : Thing} {a : α} (htimely : W.Timely turns (W.change h t a) s) :
    W.Timely (.change t a :: turns) h s := by
  intro before t' a' after hsplit
  cases before with
  | nil => exact List.not_mem_nil
  | cons turn before =>
      obtain ⟨rfl, rfl⟩ := List.cons.inj hsplit
      exact htimely before t' a' after rfl

/-- Nodes that are not changed any more have the links that stay. -/
theorem Lawful.agree_changed (hW : W.Lawful) {ns : List Thing}
    (hnever : ∀ t a, .change t a ∈ turns → t ∉ ns) : h.view.Agree ns (W.changed turns h).view := by
  induction turns generalizing h with
  | nil => exact .refl
  | cons turn turns ih =>
      have hrest : ∀ t a, .change t a ∈ turns → t ∉ ns := fun t a hmem =>
        hnever t a (List.mem_cons_of_mem _ hmem)
      cases turn with
      | ask => exact ih hrest
      | change t a => exact (hW.agree_change (hnever t a List.mem_cons_self)).trans (ih hrest)

/-- The links read for an answer are those that stay. -/
theorem Timely.agree_changed (hW : W.Lawful) (htimely : W.Timely (.ask :: turns) h s) :
    h.view.Agree (W.reads h.view s) (W.changed turns h).view := by
  refine hW.agree_changed fun t a hmem hread => ?_
  obtain ⟨before, after, rfl⟩ := List.append_of_mem hmem
  exact htimely (.ask :: before) t a after rfl (List.mem_append_left _ hread)

/-- **Timely changes might as well have been made before**: a walk with changes in between answers as one
over the heap that they leave. -/
theorem Lawful.answersIn_eq (hW : W.Lawful) (htimely : W.Timely turns h s) :
    W.answersIn turns h s = answers (W.next (W.changed turns h).view) (Turn.asked turns) s := by
  induction turns generalizing h s with
  | nil => rfl
  | cons turn turns ih =>
      cases turn with
      | ask =>
          have hnext := hW.next_congr (htimely.agree_changed hW)
          rw [answersIn, ih htimely.of_ask, Turn.asked, answers_succ, changed, hnext]
      | change t a => exact ih htimely.of_change

/-! ## The two walks -/

/-- Walks downwards, with some steps allowed for each answer, over nodes whose children are replaced. -/
def down (fuel : ℕ) : HeapWalk (DescendantWalk Thing) (List Thing) where
  next view w := w.next view fuel
  reads view w := w.reads view fuel
  change := NodeHeap.setChildren

/-- Walks towards the root over nodes whose parents are replaced. -/
def up : HeapWalk (ParentWalk Thing) Thing where
  next view w := w.next view
  reads _ w := w.reads
  change := NodeHeap.setParent

theorem lawful_down (fuel : ℕ) : (down fuel).Lawful where
  next_congr := DescendantWalk.next_congr
  agree_change := NodeHeap.agree_modify fun _ => rfl

theorem lawful_up : up.Lawful where
  next_congr := ParentWalk.next_congr
  agree_change := NodeHeap.agree_modify fun _ => rfl

/-- **Walks follow late changes.** Whatever nodes are changed while a walk is under way, as long as none is
changed after the walk read it: if a finite tree stands on the root in the end, a walk downwards gives the
nodes below the root of that tree in pre-order, or those among them that are named, where a node that does
not say so is named; and a walk towards the root gives the nodes that are above its start in the end, after
the start itself if that is included. If there is no end to these, it gives as many of them as it is asked
for. -/
theorem follows_late_changes (h : NodeHeap) :
    (∀ (root : Thing) (namedOnly : Bool) (turns : List (Turn (List Thing))) (below : List Thing) (fuel : ℕ),
      below.length + 2 ≤ fuel → (down fuel).Timely turns h (.start root namedOnly) →
      ((down fuel).changed turns h).view.Below root below →
      (down fuel).answersIn turns h (.start root namedOnly) =
        yields (below.filter fun t => !namedOnly ||
          ((((down fuel).changed turns h).node? t).bind HeapNode.isNamed).all Value.truthy) none
          (Turn.asked turns)) ∧
    ∀ (node : Thing) (includeSelf : Bool) (turns : List (Turn Thing)) (above : List Thing) (top : Thing),
      up.Timely turns h (.start node includeSelf) →
      (up.changed turns h).view.Ascent node above top →
      (up.changed turns h).view.parent top = .ok none ∨
        Turn.asked turns ≤ ((if includeSelf then [node] else []) ++ above).length →
      up.answersIn turns h (.start node includeSelf) =
        yields ((if includeSelf then [node] else []) ++ above) none (Turn.asked turns) := by
  constructor
  · intro root namedOnly turns below fuel hfuel htimely hbelow
    rw [(lawful_down fuel).answersIn_eq htimely]
    exact DescendantWalk.answers_start hbelow hfuel namedOnly _
  · intro node includeSelf turns above top htimely habove hend
    rw [lawful_up.answersIn_eq htimely]
    exact ParentWalk.answers_start habove includeSelf hend

/-- Nodes of which one is not named and two get other children and other parents. -/
def sparseHeap : NodeHeap :=
  ⟨#[{ children := some [.node 1, .node 2], parent := some (.value .null) },
    { children := some [.node 3], parent := some (.node 0), isNamed := some (.bool false) },
    { children := some [], parent := some (.node 1) },
    { children := some [], parent := some (.node 1) },
    { children := some [], parent := some (.node 3) },
    { children := some [], parent := some (.node 3), isNamed := some (.bool true) }]⟩

theorem follows_late_changes_sparseHeap :
    let growing : List (Turn (List Thing)) :=
      [.ask, .change (.node 3) [.node 4], .change (.node 2) [.node 5], .ask, .ask, .ask, .ask]
    let moving : List (Turn Thing) :=
      [.ask, .change (.node 3) (.node 2), .ask, .change (.node 2) (.node 0), .ask, .ask]
    (down 7).Timely growing sparseHeap (.start (.node 0) true) ∧
      ((down 7).changed growing sparseHeap).view.Below (.node 0)
        [.node 1, .node 3, .node 4, .node 2, .node 5] ∧
      (down 7).answersIn growing sparseHeap (.start (.node 0) true) =
        [.item (.node 3), .item (.node 4), .item (.node 2), .item (.node 5), .finished] ∧
      up.Timely moving sparseHeap (.start (.node 3) true) ∧
      (up.changed moving sparseHeap).view.Ascent (.node 3) [.node 2, .node 0] (.node 0) ∧
      up.answersIn moving sparseHeap (.start (.node 3) true) =
        [.item (.node 3), .item (.node 2), .item (.node 0), .finished] := by
  intro growing moving
  have hgrowing : (down 7).Timely growing sparseHeap (.start (.node 0) true) := by
    refine .ask (.change (.change (.ask (.ask (.ask (.ask .nil ?_) ?_) ?_) ?_))) ?_
    case refine_5 =>
      have hreads : (down 7).reads sparseHeap.view (.start (.node 0) true) = [.node 0, .node 1] := rfl
      intro t a hmem
      rcases (by simpa using hmem : t = .node 3 ∧ a = [.node 4] ∨ t = .node 2 ∧ a = [.node 5])
        with ⟨rfl, -⟩ | ⟨rfl, -⟩ <;> simp [hreads]
    all_goals simp
  have hmoving : up.Timely moving sparseHeap (.start (.node 3) true) := by
    refine .ask (.change (.ask (.change (.ask (.ask .nil ?_) ?_)) ?_)) ?_
    case refine_3 => simp [up, ParentWalk.next, ParentWalk.reads]
    all_goals simp [up, ParentWalk.reads]
  have hbelow : ((down 7).changed growing sparseHeap).view.Below (.node 0)
      [.node 1, .node 3, .node 4, .node 2, .node 5] :=
    ⟨[.node 1, .node 2], rfl, .cons rfl (.cons rfl (.cons rfl .nil .nil) .nil) (.cons rfl (.cons rfl .nil .nil) .nil)⟩
  have habove : (up.changed moving sparseHeap).view.Ascent (.node 3) [.node 2, .node 0] (.node 0) :=
    .up rfl (.up rfl (.here _))
  obtain ⟨hdown, hup⟩ := follows_late_changes sparseHeap
  refine ⟨hgrowing, hbelow, ?_, hmoving, habove, ?_⟩
  · exact hdown _ _ growing _ 7 (by simp) hgrowing hbelow
  · exact hup _ _ moving _ _ hmoving habove (.inl rfl)

end HeapWalk

end SolutionSurvey
