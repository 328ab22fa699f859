/-!
# Outcomes

When outcomes that are made from other ones are good, and which failure they have.

## Main definitions

* `bind_eq_ok`, `map_eq_ok` — good outcomes of steps made one after the other.
* `bind_eq_error` — failures of such steps.
* `eq_ok_of_toOption` — an outcome by the value that it holds.
* `FirstError` — the first failure among the outcomes for a list.
-/

namespace SolutionSurvey

variable {ε α β : Type}

/-- Two steps have a good outcome exactly if the first one has, and the second one after it. -/
theorem bind_eq_ok {x : Except ε α} {f : α → Except ε β} {b : β} :
    (x >>= f) = .ok b ↔ ∃ a, x = .ok a ∧ f a = .ok b := by
  cases x with
  | error e => exact ⟨nofun, nofun⟩
  | ok a => exact ⟨fun h => ⟨a, rfl, h⟩, fun ⟨a', ha, h⟩ => by cases ha; exact h⟩

theorem map_eq_ok {x : Except ε α} {f : α → β} {b : β} : x.map f = .ok b ↔ ∃ a, x = .ok a ∧ f a = b := by
  cases x with
  | error e => exact ⟨nofun, nofun⟩
  | ok a => simp [Except.map]

/-- Two steps fail exactly if the first one does, or the second one after a good outcome of the first. -/
theorem bind_eq_error {x : Except ε α} {f : α → Except ε β} {e : ε} :
    (x >>= f) = .error e ↔ x = .error e ∨ ∃ a, x = .ok a ∧ f a = .error e := by
  cases x with
  | error e' =>
      constructor
      · intro h
        cases h
        exact .inl rfl
      · rintro (h | ⟨a, ha, -⟩)
        · cases h
          rfl
        · cases ha
  | ok a =>
      refine ⟨fun h => .inr ⟨a, rfl, h⟩, ?_⟩
      rintro (h | ⟨a', ha, h⟩)
      · cases h
      · cases ha
        exact h

/-- An outcome is known by the value that it holds. -/
theorem eq_ok_of_toOption {x : Except ε α} {a : α} (h : x.toOption = some a) : x = .ok a := by
  cases x with
  | error f => simp [Except.toOption] at h
  | ok b => simpa [Except.toOption] using h

/-- An outcome that holds a value is that value. -/
theorem eq_ok_getD [Inhabited α] {x : Except ε α} (h : x.toOption.isSome) :
    x = .ok (x.toOption.getD default) := by
  obtain ⟨a, ha⟩ := Option.isSome_iff_exists.mp h
  rw [ha, eq_ok_of_toOption ha, Option.getD_some]

/-! ## The first failure -/

/-- The first failure among the outcomes for the members of a list. -/
def FirstError (g : α → Except ε β) (l : List α) (e : ε) : Prop :=
  ∃ before a after, l = before ++ a :: after ∧ (∀ b ∈ before, ∃ y, g b = .ok y) ∧ g a = .error e

variable {g : α → Except ε β} {e : ε}

theorem not_firstError_nil : ¬ FirstError g [] e := by
  rintro ⟨before, a, after, hsplit, -⟩
  cases before <;> cases hsplit

/-- The first failure is that of the first member, or it comes after a good outcome for that. -/
theorem firstError_cons {a : α} {l : List α} :
    FirstError g (a :: l) e ↔ g a = .error e ∨ (∃ y, g a = .ok y) ∧ FirstError g l e := by
  constructor
  · rintro ⟨before, b, after, hsplit, hbefore, hb⟩
    cases before with
    | nil =>
        cases hsplit
        exact .inl hb
    | cons a' before =>
        cases hsplit
        obtain ⟨ha, hrest⟩ := List.forall_mem_cons.mp hbefore
        exact .inr ⟨ha, before, b, after, rfl, hrest, hb⟩
  · rintro (ha | ⟨ha, before, b, after, rfl, hbefore, hb⟩)
    · exact ⟨[], a, l, rfl, nofun, ha⟩
    · exact ⟨a :: before, b, after, rfl, List.forall_mem_cons.mpr ⟨ha, hbefore⟩, hb⟩

end SolutionSurvey
