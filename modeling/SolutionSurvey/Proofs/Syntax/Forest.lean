import SolutionSurvey.Proofs.Survey.Stream
import SolutionSurvey.Syntax.Walk

/-!
# What walks give

The nodes of finite trees in pre-order are, root by root, the root, the nodes of the trees on its children,
and those of the trees on the other roots. A walk downwards gives these nodes for the children of its root,
or the named ones among them; a walk towards the root gives the parent, the parent of that and so on. Both
are stated for any way of reading nodes.

## Main definitions

* `NodeView.Forest` — the nodes of finite trees in pre-order; `NodeView.Below` — those below one node.
* `NodeView.Ascent` — the nodes on the way from a node up to one above it.
* `answers` — what a walk answers to some requests.
* `DescendantWalk.answers_start`, `ParentWalk.answers_start` — what the walks give.
-/

namespace SolutionSurvey

variable {ν : Type} {view : NodeView ν}

/-! ## Trees and ways towards the root -/

namespace NodeView

/-- The trees that stand on some nodes are finite, and the second list has their nodes in pre-order. -/
inductive Forest (view : NodeView ν) : List ν → List ν → Prop
  | nil : Forest view [] []
  | cons {n : ν} {children roots below rest : List ν} (hchildren : view.children n = .ok children)
      (hbelow : Forest view children below) (hrest : Forest view roots rest) :
      Forest view (n :: roots) (n :: (below ++ rest))

/-- A finite tree stands on a node, and the list has the nodes below it in pre-order. -/
def Below (view : NodeView ν) (n : ν) (below : List ν) : Prop :=
  ∃ children, view.children n = .ok children ∧ view.Forest children below

/-- The list has the nodes above the first node, nearest first, up to the second node. -/
inductive Ascent (view : NodeView ν) : ν → List ν → ν → Prop
  | here (n : ν) : Ascent view n [] n
  | up {n p top : ν} {above : List ν} (hparent : view.parent n = .ok (some p))
      (habove : Ascent view p above top) : Ascent view n (p :: above) top

variable {roots roots' below below' : List ν} {n top top' : ν}

theorem Forest.append (h : view.Forest roots below) (h' : view.Forest roots' below') :
    view.Forest (roots ++ roots') (below ++ below') := by
  induction h with
  | nil => exact h'
  | cons hchildren hbelow _ _ ih =>
      rw [List.cons_append, List.cons_append, List.append_assoc]
      exact .cons hchildren hbelow ih

/-- The nodes of trees are determined by their roots. -/
theorem Forest.unique (h : view.Forest roots below) (h' : view.Forest roots below') : below = below' := by
  induction h generalizing below' with
  | nil =>
      cases h'
      rfl
  | cons hchildren _ _ ih ih' =>
      cases h' with
      | cons hchildren' hbelow' hrest' =>
          obtain rfl := Except.ok.inj (hchildren.symm.trans hchildren')
          rw [ih hbelow', ih' hrest']

theorem Below.unique (h : view.Below n below) (h' : view.Below n below') : below = below' := by
  obtain ⟨children, hchildren, hforest⟩ := h
  obtain ⟨children', hchildren', hforest'⟩ := h'
  obtain rfl := Except.ok.inj (hchildren.symm.trans hchildren')
  exact hforest.unique hforest'

theorem Ascent.append {m : ν} {above above' : List ν} (h : view.Ascent n above m)
    (h' : view.Ascent m above' top) : view.Ascent n (above ++ above') top := by
  induction h with
  | here => exact h'
  | up hparent _ ih => exact .up hparent (ih h')

/-- A way up leads to each node on it and goes on from there. -/
theorem Ascent.split {m : ν} {lower upper : List ν} (h : view.Ascent n (lower ++ m :: upper) top) :
    view.Ascent n (lower ++ [m]) m ∧ view.Ascent m upper top := by
  induction lower generalizing n with
  | nil =>
      cases h with
      | up hparent habove => exact ⟨.up hparent (.here m), habove⟩
  | cons p lower ih =>
      cases h with
      | up hparent habove => exact ⟨.up hparent (ih habove).1, (ih habove).2⟩

end NodeView

/-! ## Answers -/

/-- What a walk answers to `k` requests in a row. -/
def answers {σ α : Type} (next : σ → Yield α × σ) (k : ℕ) (s : σ) : List (Yield α) :=
  (replies (fun s => ([], next s)) k s).map Prod.snd

section Answers

variable {σ α : Type} {next : σ → Yield α × σ}

theorem answers_succ (k : ℕ) (s : σ) : answers next (k + 1) s = (next s).1 :: answers next k (next s).2 := rfl

theorem yields_cons (a : α) (items : List α) (f : Option Failure) (k : ℕ) :
    yields (a :: items) f (k + 1) = .item a :: yields items f k := by
  have hcourse := (Course.give (a :: items) (.ends [] f)).yields_replies (k + 1)
  have hrest := (Course.give items (.ends [] f)).yields_replies k
  simp only [Course.items_give, Course.failure_give, Course.items, Course.failure,
    List.append_nil] at hcourse hrest
  rw [← hcourse, ← hrest]
  rfl

theorem yields_nil (k : ℕ) : yields ([] : List α) none k = List.replicate k .finished := by
  rw [yields, List.map_nil, List.nil_append, Yield.ofEnd, ← List.replicate_succ, List.take_replicate,
    Nat.min_eq_left (Nat.le_succ k)]

/-- What any number of requests get tells the items. -/
theorem yields_inj {items items' : List α} (h : ∀ k, yields items none k = yields items' none k) :
    items = items' := by
  induction items generalizing items' with
  | nil =>
      cases items' with
      | nil => rfl
      | cons a items' => simpa [yields_nil, yields_cons] using h 1
  | cons a items ih =>
      cases items' with
      | nil => simpa [yields_nil, yields_cons] using h 1
      | cons a' items' =>
          have hsucc : ∀ k, Yield.item a = .item a' ∧ yields items none k = yields items' none k := fun k => by
            simpa only [yields_cons, List.cons.injEq] using h (k + 1)
          obtain rfl := Yield.item.inj (hsucc 0).1
          rw [ih fun k => (hsucc k).2]

theorem answers_of_finished {s : σ} (h : next s = (.finished, s)) (k : ℕ) :
    answers next k s = yields [] none k := by
  rw [yields_nil]
  induction k with
  | zero => rfl
  | succ k ih => rw [answers_succ, h, ih, List.replicate_succ]

end Answers

/-! ## Walks downwards -/

namespace DescendantWalk

/-- Whether a walk gives a node or passes over it. -/
def gives (view : NodeView ν) (namedOnly : Bool) (n : ν) : Bool :=
  !namedOnly || view.isNamed n

/-- The nodes that a walk still comes to, in order. -/
inductive Ahead (view : NodeView ν) (namedOnly : Bool) : DescendantWalk ν → List ν → Prop
  | start {root : ν} {ahead : List ν} (h : view.Below root ahead) :
      Ahead view namedOnly (.start root namedOnly) ahead
  | below {n : ν} {stack below rest : List ν} (hbelow : view.Below n below)
      (hrest : view.Forest stack rest) :
      Ahead view namedOnly (.below n stack namedOnly) (below ++ rest)
  | pending {stack ahead : List ν} (h : view.Forest stack ahead) :
      Ahead view namedOnly (.pending stack namedOnly) ahead
  | done : Ahead view namedOnly .done []

variable {namedOnly : Bool} {w : DescendantWalk ν} {stack ahead below rest : List ν} {n : ν}

/-- Entering a node puts what is below it before the rest. -/
theorem enter_of_below (namedOnly : Bool) (hbelow : view.Below n below) (hrest : view.Forest stack rest) :
    ∃ stack', enter view n stack namedOnly = (none, .pending stack' namedOnly) ∧
      view.Forest stack' (below ++ rest) := by
  obtain ⟨children, hchildren, hforest⟩ := hbelow
  refine ⟨children ++ stack, ?_, hforest.append hrest⟩
  rw [enter, hchildren]

/-- An answer with the walk after it is right if it has the first node ahead that the walk gives, with less
ahead after it, or if there is no such node. -/
def Right (view : NodeView ν) (namedOnly : Bool) (ahead : List ν) : Yield ν × DescendantWalk ν → Prop
  | (.item n, w) => ∃ rest, Ahead view namedOnly w rest ∧ rest.length < ahead.length ∧
      ahead.filter (gives view namedOnly) = n :: rest.filter (gives view namedOnly)
  | (.finished, w) => w = .done ∧ ahead.filter (gives view namedOnly) = []
  | (.failed _, _) => False

/-- A node that is passed over makes no difference. -/
theorem Right.cons_of_not_gives {r : Yield ν × DescendantWalk ν} (h : Right view namedOnly ahead r)
    (hgives : ¬ gives view namedOnly n = true) : Right view namedOnly (n :: ahead) r := by
  match r, h with
  | (.item m, w), ⟨rest, hrest, hless, hfilter⟩ =>
      refine ⟨rest, hrest, by rw [List.length_cons]; omega, ?_⟩
      rw [List.filter_cons_of_neg hgives, hfilter]
  | (.finished, w), ⟨hdone, hfilter⟩ => exact ⟨hdone, by rw [List.filter_cons_of_neg hgives, hfilter]⟩

theorem right_next_pending {fuel : ℕ} (h : view.Forest stack ahead) (hfuel : ahead.length + 1 ≤ fuel) :
    Right view namedOnly ahead (next view fuel (.pending stack namedOnly)) := by
  induction fuel generalizing stack ahead with
  | zero => omega
  | succ fuel ih =>
      cases h with
      | nil => exact ⟨rfl, rfl⟩
      | @cons n children roots below rest hchildren hbelow hrest =>
          have hn : view.Below n below := ⟨children, hchildren, hbelow⟩
          rw [next, step, ← gives]
          by_cases hgives : gives view namedOnly n = true
          · rw [if_pos hgives]
            exact ⟨below ++ rest, .below hn hrest, by simp, List.filter_cons_of_pos hgives⟩
          · obtain ⟨stack', henter, hforest⟩ := enter_of_below namedOnly hn hrest
            rw [if_neg hgives, henter]
            rw [List.length_cons] at hfuel
            exact (ih hforest (by omega)).cons_of_not_gives hgives

/-- **The next answer of a walk** is right, if as many steps are allowed for it as nodes are ahead. -/
theorem right_next {fuel : ℕ} (h : Ahead view namedOnly w ahead) (hfuel : ahead.length + 2 ≤ fuel) :
    Right view namedOnly ahead (w.next view fuel) := by
  obtain ⟨fuel, rfl⟩ : ∃ k, fuel = k + 1 := ⟨fuel - 1, by omega⟩
  cases h with
  | start h =>
      obtain ⟨stack', henter, hforest⟩ := enter_of_below namedOnly h .nil
      rw [List.append_nil] at hforest
      rw [next, step, henter]
      exact right_next_pending hforest (by omega)
  | below hbelow hrest =>
      obtain ⟨stack', henter, hforest⟩ := enter_of_below namedOnly hbelow hrest
      rw [next, step, henter]
      exact right_next_pending hforest (by omega)
  | pending h => exact right_next_pending h (by omega)
  | done => exact ⟨rfl, rfl⟩

theorem answers_of_ahead {fuel : ℕ} (h : Ahead view namedOnly w ahead) (hfuel : ahead.length + 2 ≤ fuel)
    (k : ℕ) : answers (next view fuel) k w = yields (ahead.filter (gives view namedOnly)) none k := by
  induction k generalizing w ahead with
  | zero => rfl
  | succ k ih =>
      have hright := right_next h hfuel
      rw [answers_succ]
      match hnext : w.next view fuel, hright with
      | (.item n, w'), ⟨rest, hrest, hless, hfilter⟩ =>
          rw [hfilter, yields_cons, ih hrest (by omega)]
      | (.finished, w'), ⟨hdone, hfilter⟩ =>
          have hstays : next view fuel (.done : DescendantWalk ν) = (.finished, .done) := by
            obtain ⟨fuel, rfl⟩ : ∃ k, fuel = k + 1 := ⟨fuel - 1, by omega⟩
            rfl
          rw [hfilter, hdone, answers_of_finished hstays, yields_nil, yields_nil, List.replicate_succ]

/-- **A walk downwards gives the nodes below its root in pre-order**, or the named ones among them, and then
ends. -/
theorem answers_start {fuel : ℕ} {root : ν} (h : view.Below root below)
    (hfuel : below.length + 2 ≤ fuel) (namedOnly : Bool) (k : ℕ) :
    answers (next view fuel) k (.start root namedOnly) =
      yields (below.filter (gives view namedOnly)) none k :=
  answers_of_ahead (.start h) hfuel k

end DescendantWalk

/-! ## Walks towards the root -/

namespace ParentWalk

variable {n top : ν} {above : List ν}

theorem answers_above (h : view.Ascent n above top) {k : ℕ}
    (hend : view.parent top = .ok none ∨ k ≤ above.length) :
    answers (next view) k (.above n) = yields above none k := by
  induction h generalizing k with
  | here n =>
      cases k with
      | zero => rfl
      | succ k =>
          have htop : view.parent n = .ok none := hend.resolve_right (by simp)
          have hdone : next view (.done : ParentWalk ν) = (.finished, .done) := rfl
          rw [answers_succ, next, climb, htop, answers_of_finished hdone, yields_nil, yields_nil,
            List.replicate_succ]
  | @up n p top above hparent _ ih =>
      cases k with
      | zero => rfl
      | succ k =>
          rw [answers_succ, next, climb, hparent, yields_cons, ih (hend.imp id (by simp))]

/-- **A walk towards the root gives the nodes above its start**, nearest first, after the start itself if that
is included, and then ends. As far as the way up is known, it is also known what the walk gives. -/
theorem answers_start (h : view.Ascent n above top) (includeSelf : Bool) {k : ℕ}
    (hend : view.parent top = .ok none ∨ k ≤ ((if includeSelf then [n] else []) ++ above).length) :
    answers (next view) k (.start n includeSelf) =
      yields ((if includeSelf then [n] else []) ++ above) none k := by
  cases k with
  | zero => rfl
  | succ k =>
      cases includeSelf with
      -- Without its start the walk goes on as if the start had just been given.
      | false => exact answers_above h hend
      | true =>
          rw [answers_succ, next, if_pos rfl, List.singleton_append, yields_cons,
            answers_above h (hend.imp id (by simp))]

end ParentWalk

end SolutionSurvey
