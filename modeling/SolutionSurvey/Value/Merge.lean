import SolutionSurvey.Value.Basic

/-!
# Layered mappings

One mapping laid over another. Where both hold a mapping at a key the two are laid over each other in
turn; anywhere else the upper value hides the lower one whole.

## Main definitions

* `Value.overlay` — the upper entries laid over the lower ones.
* `Value.laidOver` — the same for what stands at a key.
-/

namespace SolutionSurvey.Value

mutual

/-- What stands at a key when a value is laid over what stood there before. -/
def laidOver (below : Option Value) : Value → Value
  | .map upper =>
    match below with
    | some (.map lower) => .map (overlay lower upper)
    | _ => .map upper
  | v => v

/-- The entries of `lower` with those of the second argument laid over them. Keys of `lower` keep their
place; new keys follow in the order of the upper mapping. -/
def overlay (lower : Entries) : List (Value × Value) → Entries
  | [] => lower
  | (key, value) :: rest => overlay (put key (laidOver (get? key lower) value) lower) rest

end

@[simp] theorem overlay_nil (lower : Entries) : overlay lower [] = lower := by
  rw [overlay]

end SolutionSurvey.Value
