import SolutionSurvey.Value.Cycle

/-!
# Values in cells

Values that are made step by step: lists, pairs and mappings lie in numbered cells and refer to each other
by number, so that one can be inside several others, or inside itself. When all cells are filled, a value
is read off by following the numbers down to where a cell comes again.

## Main definitions

* `Ref`, `Cell`, `Cells` — references, cells, and all cells.
* `Cells.unroll` — the value of a reference, given the cells around it.
* `Cells.valueOf` — the value of a reference by itself.
-/

namespace SolutionSurvey

/-- A value that is in no cell, or the number of a cell. -/
inductive Ref where
  | plain (v : Value)
  | cell (number : Nat)
  deriving Repr, Inhabited

/-- What a cell holds. A mapping is given by what is written into it one after the other. -/
inductive Cell where
  | list (items : List Ref)
  | pair (first second : Ref)
  | set (items : List Value)
  | map (writes : List (Value × Ref))
  deriving Repr, Inhabited

/-- All cells, by their numbers. -/
abbrev Cells := Array Cell

/-- A value read off from cells: the cells around it that come again inside it, and whether it is nowhere
inside itself. -/
structure Unrolled where
  value : Value
  outer : List Nat
  isTree : Bool
  deriving Repr, Inhabited

namespace Unrolled

/-- A value made of several ones. -/
def combine (make : List Value → Value) (parts : List Unrolled) : Unrolled :=
  ⟨make (parts.map Unrolled.value), (parts.flatMap Unrolled.outer).eraseDups, parts.all Unrolled.isTree⟩

/-- The value of a cell, which gets a label where a cell comes again inside it that is the cell itself or
one around it. -/
def close (number : Nat) (u : Unrolled) : Unrolled :=
  if u.outer.isEmpty then u
  else ⟨.cyclic number u.value, u.outer.filter (· != number), false⟩

end Unrolled

namespace Cells

/-- The values that were read off already and have no cell that comes again. -/
abbrev Memory := Array (Option Value)

/-- The value of a reference inside the cells `around`; `fuel` bounds the number of cells around it. -/
def unroll (cells : Cells) : Nat → List Nat → Ref → StateM Memory Unrolled
  | _, _, .plain v => pure ⟨v, [], true⟩
  | 0, _, .cell number => pure ⟨.again number, [number], false⟩
  | fuel + 1, around, .cell number => do
    if around.contains number then return ⟨.again number, [number], false⟩
    match ((← get)[number]?).join with
    | some v => pure ⟨v, [], true⟩
    | none =>
      let part := unroll cells fuel (number :: around)
      let body ← match cells.getD number default with
        | .list items => do pure (Unrolled.combine .list (← items.mapM part))
        | .pair a b => do
          let a ← part a
          let b ← part b
          pure (Unrolled.combine (fun _ => .pair a.value b.value) [a, b])
        | .set items => pure ⟨.set items, [], true⟩
        | .map writes => do
          let parts ← writes.mapM fun w => part w.2
          pure (Unrolled.combine
            (fun vs => .map (Value.ofWrites ((writes.map Prod.fst).zip vs))) parts)
      if body.isTree then modify fun m => m.setIfInBounds number (some body.value)
      pure (body.close number)

/-- The value of a reference by itself. -/
def valueOf (cells : Cells) (r : Ref) : Value :=
  ((cells.unroll (cells.size + 1) [] r).run (Array.replicate cells.size none)).1.value

end Cells

end SolutionSurvey
