import SolutionSurvey.Value.Basic

/-!
# Values inside themselves

A list, pair or mapping that is inside itself has a label, and the places inside it where it comes again
refer to the label. Opening such a value puts the whole of it at these places, so that its parts can be
taken out.

## Main definitions

* `Value.fill` — puts a value at the places that refer to a label.
* `Value.opened` — a value whose parts can be taken out.
-/

namespace SolutionSurvey.Value

mutual

/-- Puts a value at the places that refer to a label. Inside a value with the same label they refer to
that one. -/
def fill (label : Nat) (whole : Value) : Value → Value
  | .again l => if l = label then whole else .again l
  | .cyclic l body => .cyclic l (if l = label then body else fill label whole body)
  | .list items => .list (fillItems label whole items)
  | .pair a b => .pair (fill label whole a) (fill label whole b)
  | .map entries => .map (fillEntries label whole entries)
  | v => v

/-- The same in the items of a list. -/
def fillItems (label : Nat) (whole : Value) : List Value → List Value
  | [] => []
  | v :: rest => fill label whole v :: fillItems label whole rest

/-- The same in the values of a mapping; its keys are never inside themselves. -/
def fillEntries (label : Nat) (whole : Value) : List (Value × Value) → List (Value × Value)
  | [] => []
  | (k, v) :: rest => (k, fill label whole v) :: fillEntries label whole rest

end

/-- A value whose parts can be taken out: nothing in them refers to the value itself any more. -/
def opened : Value → Value
  | .cyclic label body => fill label (.cyclic label body) body
  | v => v

@[simp] theorem fillItems_eq_map (label : Nat) (whole : Value) (items : List Value) :
    fillItems label whole items = items.map (fill label whole) := by
  induction items with
  | nil => simp [fillItems]
  | cons v rest ih => simp [fillItems, ih]

/-- Filling leaves the keys of a mapping as they are. -/
@[simp] theorem map_fst_fillEntries (label : Nat) (whole : Value) (entries : Entries) :
    (fillEntries label whole entries).map Prod.fst = entries.map Prod.fst := by
  induction entries with
  | nil => simp [fillEntries]
  | cons e rest ih => simp [fillEntries, ih]

@[simp] theorem opened_map (entries : Entries) : opened (.map entries) = .map entries := rfl

@[simp] theorem opened_list (items : List Value) : opened (.list items) = .list items := rfl

end SolutionSurvey.Value
