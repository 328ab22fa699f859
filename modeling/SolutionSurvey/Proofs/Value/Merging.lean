import SolutionSurvey.Proofs.Outcome
import SolutionSurvey.Proofs.Value.Mapping
import SolutionSurvey.Value.Layered

/-!
# Merged mappings

Mappings are merged key by key, each pair of mappings at a key in its turn. That has an end unless both sides
are inside themselves: where the upper mappings are not, there are no more levels than values in them. If none
are, the merged mapping is the layered one.

## Main definitions

* `Value.get?_mergeWithin` — what merged mappings have at a key.
* `Value.eq_endless_of_mergeWithin` — a merge fails only if it has no end.
* `Value.Straight` — values without mappings inside themselves.
* `Value.exists_merge`, `Value.merge_eq_overlay` — merges of such values.
-/

namespace SolutionSurvey.Value

variable {depth : ℕ} {lower upper whole : Entries}

/-! ## Key by key -/

/-- The first entry is merged into the lower mapping, and then the rest. -/
theorem mergeWithin_cons (depth : ℕ) (lower : Entries) (e : Value × Value) (rest : Entries) :
    mergeWithin (depth + 1) lower (e :: rest) =
      layOver (mergeWithin depth) (get? e.1 lower) e.2 >>= fun v =>
        mergeWithin (depth + 1) (put e.1 v lower) rest := by
  simp only [mergeWithin, List.foldlM_cons, bind_assoc, pure_bind]

/-- What is laid over something is merged with it if both are mappings, and hides it otherwise. -/
theorem layOver_cases (deeper : Entries → Entries → Except Failure Entries) (below : Option Value) (v : Value) :
    (∃ w ls us, below = some w ∧ w.opened = .map ls ∧ v.opened = .map us ∧
      layOver deeper below v = (deeper ls us).map .map) ∨
    ((∀ w ls us, below = some w → w.opened = .map ls → v.opened ≠ .map us) ∧ layOver deeper below v = .ok v) := by
  rw [layOver]
  split
  · next ls us hbelow hv =>
    obtain ⟨w, hw, hopened⟩ := Option.map_eq_some_iff.mp hbelow
    exact .inl ⟨w, ls, us, hw, hopened, hv, rfl⟩
  · next hnot =>
    refine .inr ⟨?_, rfl⟩
    rintro w ls us rfl hw hv
    exact hnot ls us (congrArg some hw) hv

/-- Laying a value over something fails exactly if both are mappings that cannot be merged. -/
theorem layOver_eq_error_iff {deeper : Entries → Entries → Except Failure Entries} {below : Option Value}
    {v : Value} {f : Failure} :
    layOver deeper below v = .error f ↔
      ∃ w ls us, below = some w ∧ w.opened = .map ls ∧ v.opened = .map us ∧ deeper ls us = .error f := by
  rcases layOver_cases deeper below v with ⟨w, ls, us, hw, hls, hus, hlay⟩ | ⟨hnot, hlay⟩
  · have hmap : (deeper ls us).map Value.map = .error f ↔ deeper ls us = .error f := by
      cases deeper ls us <;> simp [Except.map]
    rw [hlay, hmap]
    refine ⟨fun hf => ⟨w, ls, us, hw, hls, hus, hf⟩, ?_⟩
    rintro ⟨w', ls', us', hw', hls', hus', hf⟩
    cases hw.symm.trans hw'
    cases hls.symm.trans hls'
    cases hus.symm.trans hus'
    exact hf
  · rw [hlay]
    refine iff_of_false nofun ?_
    rintro ⟨w, ls, us, hw, hls, hus, -⟩
    exact hnot w ls us hw hls hus

theorem distinct_mergeWithin (hlower : Distinct lower) (h : mergeWithin depth lower upper = .ok whole) :
    Distinct whole := by
  cases depth with
  | zero => cases h
  | succ depth =>
      induction upper generalizing lower with
      | nil =>
          cases h
          exact hlower
      | cons e rest ih =>
          rw [mergeWithin_cons] at h
          obtain ⟨v, -, hrest⟩ := bind_eq_ok.mp h
          exact ih (distinct_put hlower e.1 v) hrest

/-- **What merged mappings have at a key**: what the upper one has, laid over what the lower one has; and what
the lower one has where the upper one has nothing. -/
theorem get?_mergeWithin (hupper : Distinct upper) (h : mergeWithin (depth + 1) lower upper = .ok whole)
    (key : Value) :
    (get? key upper = none ∧ get? key whole = get? key lower) ∨
      ∃ v w, get? key upper = some v ∧ layOver (mergeWithin depth) (get? key lower) v = .ok w ∧
        get? key whole = some w := by
  induction upper generalizing lower with
  | nil =>
      cases h
      exact .inl ⟨rfl, rfl⟩
  | cons e rest ih =>
      obtain ⟨hnew, hrest⟩ := distinct_cons.mp hupper
      rw [mergeWithin_cons] at h
      obtain ⟨w, hw, hlater⟩ := bind_eq_ok.mp h
      have hput := ih hrest hlater
      rw [get?_put] at hput
      rw [get?]
      by_cases hkey : e.1.sameKey key
      · -- nothing after the entry has its key
        rw [get?_congr hkey] at hnew hw
        rw [if_pos hkey] at hput ⊢
        obtain ⟨-, hget⟩ | ⟨v, w', hv, -⟩ := hput
        · exact .inr ⟨e.2, w, rfl, hw, hget⟩
        · rw [hnew] at hv
          cases hv
      · rw [if_neg hkey] at hput ⊢
        exact hput

/-- The entries that a merge leaves are those of both sides, as far as keys that name the same entry agree on
them. -/
theorem any_mergeWithin {p : Value → Bool} (hp : ∀ a b : Value, a.sameKey b → p a = p b)
    (h : mergeWithin (depth + 1) lower upper = .ok whole) :
    (whole.any fun e => p e.1) = ((lower.any fun e => p e.1) || upper.any fun e => p e.1) := by
  have hput (key v : Value) (entries : Entries) :
      ((put key v entries).any fun e => p e.1) = ((entries.any fun e => p e.1) || p key) := by
    induction entries with
    | nil => simp [put]
    | cons e rest ih =>
        rw [put]
        by_cases hkey : e.1.sameKey key
        · rw [if_pos hkey, List.any_cons, List.any_cons, hp e.1 key hkey]
          cases p key <;> simp
        · rw [if_neg hkey, List.any_cons, List.any_cons, ih, Bool.or_assoc]
  induction upper generalizing lower with
  | nil =>
      cases h
      rw [List.any_nil, Bool.or_false]
  | cons e rest ih =>
      rw [mergeWithin_cons] at h
      obtain ⟨v, -, hrest⟩ := bind_eq_ok.mp h
      rw [ih hrest, hput, List.any_cons, Bool.or_assoc]

/-- **A merge fails only if it has no end.** -/
theorem eq_endless_of_mergeWithin {f : Failure} (h : mergeWithin depth lower upper = .error f) :
    f = .endless := by
  induction depth generalizing lower upper with
  | zero =>
      cases h
      rfl
  | succ depth ihdepth =>
      induction upper generalizing lower with
      | nil => cases h
      | cons e rest ih =>
          rw [mergeWithin_cons] at h
          rcases bind_eq_error.mp h with hfirst | ⟨v, -, hrest⟩
          · obtain ⟨-, ls, us, -, -, -, hdeeper⟩ := layOver_eq_error_iff.mp hfirst
            exact ihdepth hdeeper
          · exact ih hrest

/-! ## Values that are not inside themselves -/

mutual

/-- A value is not inside itself, and if it is a mapping then neither are its values. -/
def Straight : Value → Prop
  | .map entries => StraightEntries entries
  | .cyclic .. => False
  | _ => True

/-- The same for the values of some entries. -/
def StraightEntries : List (Value × Value) → Prop
  | [] => True
  | (_, v) :: rest => Straight v ∧ StraightEntries rest

end

theorem straightEntries_iff {entries : Entries} : StraightEntries entries ↔ ∀ e ∈ entries, Straight e.2 := by
  induction entries with
  | nil => simp [StraightEntries]
  | cons e rest ih => rw [StraightEntries, ih, List.forall_mem_cons]

theorem straight_map {entries : Entries} : Straight (.map entries) ↔ ∀ e ∈ entries, Straight e.2 := by
  rw [Straight, straightEntries_iff]

theorem straight_ofWording (w : Wording) : Straight (.ofWording w) := by
  cases w <;> trivial

theorem Straight.opened {v : Value} (h : Straight v) : v.opened = v := by
  cases v with
  | cyclic label body => exact h.elim
  | _ => rfl

theorem Straight.of_get? {entries : Entries} {key v : Value} (h : Straight (.map entries))
    (hget : get? key entries = some v) : Straight v := by
  obtain ⟨k, -, hmem⟩ := mem_of_get? hget
  exact straight_map.mp h _ hmem

theorem Straight.put {entries : Entries} {v : Value} (h : Straight (.map entries)) (hv : Straight v)
    (key : Value) : Straight (.map (Value.put key v entries)) :=
  straight_map.mpr (forall_mem_put hv (straight_map.mp h))

/-- Writing straight values gives a straight mapping. -/
theorem straight_ofWrites {writes : Entries} (h : ∀ e ∈ writes, Straight e.2) :
    Straight (.map (ofWrites writes)) :=
  straight_map.mpr (forall_mem_ofWrites h)

/-- A value hides what stood there before unless both are mappings. -/
theorem laidOver_eq_self {below : Option Value} {v : Value}
    (h : ∀ ls us, below = some (.map ls) → v ≠ .map us) : laidOver below v = v := by
  by_cases hmap : ∃ us, v = .map us
  · obtain ⟨us, rfl⟩ := hmap
    rw [laidOver]
    exact fun ls hls => h ls us hls rfl
  · exact laidOver_of_ne_map (not_exists.mp hmap) below

mutual

/-- A straight value laid over a straight one is straight. -/
theorem Straight.laidOver : ∀ {v : Value}, Straight v → ∀ below : Option Value,
    (∀ w, below = some w → Straight w) → Straight (laidOver below v)
  | .map upper, h, below, hbelow => by
      by_cases hmap : ∃ lower, below = some (.map lower)
      · obtain ⟨lower, rfl⟩ := hmap
        rw [Value.laidOver]
        rw [Straight] at h
        exact Straight.overlay h (hbelow _ rfl)
      · rw [laidOver_eq_self fun lower _ hlower => absurd ⟨lower, hlower⟩ hmap]
        exact h
  | .cyclic .., h, _, _ => h.elim
  | .list _, _, _, _ | .pair .., _, _, _ | .null, _, _, _ | .bool _, _, _, _ | .int _, _, _, _
  | .float _, _, _, _ | .text _, _, _, _ | .broken .., _, _, _ | .bytes _, _, _, _ | .date .., _, _, _
  | .moment _, _, _, _ | .set _, _, _, _ | .again _, _, _, _ => trivial

theorem Straight.overlay : ∀ {upper : Entries}, StraightEntries upper → ∀ {lower : Entries},
    Straight (.map lower) → Straight (.map (overlay lower upper))
  | [], _, _, hlower => hlower
  | (key, v) :: rest, h, lower, hlower => by
      rw [Value.overlay]
      rw [StraightEntries] at h
      exact Straight.overlay h.2 (hlower.put (Straight.laidOver h.1 _ fun w hw => hlower.of_get? hw) key)

end

/-! ## Merges of such values -/

/-- What a straight value leaves when it is laid over something. -/
theorem exists_layOver {deeper : Entries → Entries → Except Failure Entries} {v : Value} (hv : Straight v)
    (hdeeper : ∀ us, v = .map us → ∀ ls, ∃ whole, deeper ls us = .ok whole ∧
      (Straight (.map ls) → whole = overlay ls us)) (below : Option Value) :
    ∃ w, layOver deeper below v = .ok w ∧ ((∀ u, below = some u → Straight u) → w = laidOver below v) := by
  rcases layOver_cases deeper below v with ⟨u, ls, us, rfl, hls, hus, hmerge⟩ | ⟨hnot, hmerge⟩
  · rw [hv.opened] at hus
    subst hus
    obtain ⟨es, hes, hsame⟩ := hdeeper us rfl ls
    refine ⟨.map es, by rw [hmerge, hes]; rfl, fun hbelow => ?_⟩
    have hu := hbelow u rfl
    rw [hu.opened] at hls
    subst hls
    rw [laidOver, hsame hu]
  · refine ⟨v, hmerge, fun _ => (laidOver_eq_self ?_).symm⟩
    rintro ls us rfl rfl
    exact hnot _ ls us rfl rfl rfl

/-- **Straight mappings are merged with any others**, and with straight ones they are layered. -/
theorem exists_mergeWithin (hupper : StraightEntries upper) (hdepth : size (.map upper) ≤ depth)
    (lower : Entries) :
    ∃ whole, mergeWithin depth lower upper = .ok whole ∧
      (Straight (.map lower) → whole = overlay lower upper) := by
  induction depth generalizing lower upper with
  | zero => simp [size] at hdepth
  | succ depth ihdepth =>
      induction upper generalizing lower with
      | nil => exact ⟨lower, rfl, fun _ => (overlay_nil lower).symm⟩
      | cons e rest ih =>
          obtain ⟨key, v⟩ := e
          rw [StraightEntries] at hupper
          obtain ⟨hv, hrest⟩ := hupper
          have hsize : size v + sizeEntries rest ≤ depth := by
            rw [size, sizeEntries] at hdepth
            omega
          have hdeeper : ∀ us, v = .map us → ∀ ls, ∃ whole, mergeWithin depth ls us = .ok whole ∧
              (Straight (.map ls) → whole = overlay ls us) := by
            rintro us rfl ls
            rw [Straight] at hv
            exact ihdepth hv (by omega) ls
          obtain ⟨w, hw, hsame⟩ := exists_layOver hv hdeeper (get? key lower)
          have hless : size (.map rest) ≤ depth + 1 := by
            rw [size]
            omega
          obtain ⟨whole, hwhole, hlayers⟩ := ih hrest hless (put key w lower)
          refine ⟨whole, by rw [mergeWithin_cons, hw]; exact hwhole, fun hlower => ?_⟩
          have hbelow : ∀ u, get? key lower = some u → Straight u := fun u hu => hlower.of_get? hu
          obtain rfl := hsame hbelow
          rw [overlay]
          exact hlayers (hlower.put (hv.laidOver _ hbelow) key)

/-- The depth of a merge is enough for the upper mappings alone. -/
theorem size_le_depth (lower upper : Entries) :
    size (.map upper) ≤ size (.map lower) * size (.map upper) + 1 := by
  have hpos : 0 < size (.map lower) := by
    rw [size]
    omega
  exact Nat.le_succ_of_le (Nat.le_mul_of_pos_left _ hpos)

theorem exists_merge (hupper : Straight (.map upper)) (lower : Entries) :
    ∃ whole, merge lower upper = .ok whole := by
  rw [Straight] at hupper
  obtain ⟨whole, hwhole, -⟩ := exists_mergeWithin hupper (size_le_depth lower upper) lower
  exact ⟨whole, hwhole⟩

/-- **Straight mappings are merged to the layered one.** -/
theorem merge_eq_overlay (hlower : Straight (.map lower)) (hupper : Straight (.map upper)) :
    merge lower upper = .ok (overlay lower upper) := by
  rw [Straight] at hupper
  obtain ⟨whole, hwhole, hsame⟩ := exists_mergeWithin hupper (size_le_depth lower upper) lower
  rw [merge, hwhole, hsame hlower]

end SolutionSurvey.Value
