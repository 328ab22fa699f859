import SolutionSurvey.Failure
import SolutionSurvey.Value.Cycle
import SolutionSurvey.Value.Merge

/-!
# Layers of values inside themselves

Where both of two mappings hold a mapping at a key, these are laid over each other in turn. If both are inside
themselves this may have no end, and then there is no layered mapping; otherwise a mapping that is inside
itself is opened as far as the other one goes.

## Main definitions

* `Value.size` — the number of values inside a value.
* `Value.mergeWithin` — mappings laid over each other down to some depth.
* `Value.merge` — the same as deep as need be.
-/

namespace SolutionSurvey.Value

mutual

/-- The number of values inside a value, with the value itself. -/
def size : Value → Nat
  | .list items => sizeItems items + 1
  | .pair a b => size a + size b + 1
  | .map entries => sizeEntries entries + 1
  | .cyclic _ body => size body + 1
  | _ => 1

/-- The number of values inside the items of a list. -/
def sizeItems : List Value → Nat
  | [] => 0
  | v :: rest => size v + sizeItems rest

/-- The number of values inside the values of a mapping. -/
def sizeEntries : List (Value × Value) → Nat
  | [] => 0
  | (_, v) :: rest => size v + sizeEntries rest

end

/-- What stands at a key when a value is laid over what stood there before; `deeper` lays two mappings over
each other. -/
def layOver (deeper : Entries → Entries → Except Failure Entries) (below : Option Value) (v : Value) :
    Except Failure Value :=
  match below.map opened, v.opened with
  | some (.map lower), .map upper => (deeper lower upper).map .map
  | _, _ => .ok v

/-- The entries of `lower` with those of `upper` laid over them, where mappings meet less than `depth` deep. -/
def mergeWithin : Nat → Entries → Entries → Except Failure Entries
  | 0, _, _ => .error .endless
  | depth + 1, lower, upper =>
    upper.foldlM (fun done e => do
      pure (put e.1 (← layOver (mergeWithin depth) (get? e.1 done) e.2) done)) lower

/-- The entries of `lower` with those of `upper` laid over them. There are no more pairs of mappings inside the
two than the depth says; so on the way to a greater depth some pair comes again, and the way has no end. -/
def merge (lower upper : Entries) : Except Failure Entries :=
  mergeWithin (size (.map lower) * size (.map upper) + 1) lower upper

end SolutionSurvey.Value
