import SolutionSurvey.Proofs.Value.Merging
import SolutionSurvey.Proofs.Value.Parts
import Mathlib.Data.Finset.Prod
import Mathlib.Order.Monotone.Basic

/-!
# Merges without an end

Merging two mappings needs another depth for each pair of mappings that meet at a key of both. Only finitely
many pairs come up, so at some depth a merge either is done or goes on without end; the depth of a merge is
such a one.

## Main definitions

* `Value.Meets` — two mappings meet at a key of two others; `Value.fails_succ_iff` — a merge fails exactly if
  that of two mappings that meet does.
* `Value.Enclosed` — pairs that meet only pairs among them, with `Value.Enclosed.fails_of_card_le`.
* `Value.Endless`, `Value.merge_eq_endless_iff` — a merge has no end exactly if it fails at every depth.
-/

namespace SolutionSurvey.Value

variable {depth : ℕ} {lower upper : Entries}

/-! ## One level -/

/-- An entry has a mapping, and below it there is another one at its key. -/
def MeetsAt (lower : Entries) (e : Value × Value) (q : Entries × Entries) : Prop :=
  ∃ w, get? e.1 lower = some w ∧ w.opened = .map q.1 ∧ e.2.opened = .map q.2

/-- Two mappings stand at a key of two others. -/
def Meets (p q : Entries × Entries) : Prop :=
  ∃ e ∈ p.2, MeetsAt p.1 e q

/-- A merge of two mappings fails at a depth. -/
def Fails (depth : ℕ) (p : Entries × Entries) : Prop :=
  mergeWithin depth p.1 p.2 = .error .endless

theorem fails_zero (p : Entries × Entries) : Fails 0 p := by
  rw [Fails, mergeWithin]

theorem meets_cons {e : Value × Value} {rest : Entries} {q : Entries × Entries} :
    Meets (lower, e :: rest) q ↔ MeetsAt lower e q ∨ Meets (lower, rest) q := by
  simp [Meets]

/-- An entry does not change what entries with other keys meet. -/
theorem meets_put {key : Value} {rest : Entries} (hnew : get? key rest = none) (v : Value)
    (q : Entries × Entries) : Meets (put key v lower, rest) q ↔ Meets (lower, rest) q := by
  refine exists_congr fun d => and_congr_right fun hd => ?_
  have hother : ¬ key.sameKey d.1 := by
    rw [sameKey_comm, get?_eq_none_iff.mp hnew d hd]
    exact Bool.false_ne_true
  rw [MeetsAt, MeetsAt, get?_put, if_neg hother]

theorem layOver_eq_error_iff_meetsAt {e : Value × Value} {f : Failure} :
    layOver (mergeWithin depth) (get? e.1 lower) e.2 = .error f ↔
      ∃ q, MeetsAt lower e q ∧ mergeWithin depth q.1 q.2 = .error f := by
  rw [layOver_eq_error_iff]
  constructor
  · rintro ⟨w, ls, us, hw, hls, hus, hf⟩
    exact ⟨(ls, us), ⟨w, hw, hls, hus⟩, hf⟩
  · rintro ⟨q, ⟨w, hw, hls, hus⟩, hf⟩
    exact ⟨w, q.1, q.2, hw, hls, hus, hf⟩

/-- **A merge fails exactly if that of two mappings that meet fails** one level deeper. -/
theorem fails_succ_iff (hupper : Distinct upper) :
    Fails (depth + 1) (lower, upper) ↔ ∃ q, Meets (lower, upper) q ∧ Fails depth q := by
  induction upper generalizing lower with
  | nil =>
      refine iff_of_false nofun ?_
      rintro ⟨q, ⟨e, he, -⟩, -⟩
      cases he
  | cons e rest ih =>
      obtain ⟨hnew, hdistinct⟩ := distinct_cons.mp hupper
      have hrest (v : Value) : mergeWithin (depth + 1) (put e.1 v lower) rest = .error .endless ↔
          ∃ q, Meets (lower, rest) q ∧ Fails depth q := by
        rw [← exists_congr fun q => and_congr_left' (meets_put hnew v q)]
        exact ih hdistinct
      rw [Fails, mergeWithin_cons, bind_eq_error]
      simp only [hrest, meets_cons, or_and_right, exists_or]
      cases hlay : layOver (mergeWithin depth) (get? e.1 lower) e.2 with
      | ok v =>
          have hnot : ¬ ∃ q, MeetsAt lower e q ∧ Fails depth q := fun hfails => by
            rw [layOver_eq_error_iff_meetsAt.mpr hfails] at hlay
            cases hlay
          rw [or_iff_right hnot]
          simp
      | error f =>
          obtain ⟨q, hq, hf⟩ := layOver_eq_error_iff_meetsAt.mp hlay
          obtain rfl := eq_endless_of_mergeWithin hf
          exact iff_of_true (.inl rfl) (.inl ⟨q, hq, hf⟩)

/-! ## All levels -/

/-- Pairs of mappings from which only pairs among them are met, and whose upper mappings have no key twice. -/
structure Enclosed (s : Finset (Entries × Entries)) : Prop where
  distinct : ∀ p ∈ s, Distinct p.2
  meets : ∀ p ∈ s, ∀ q, Meets p q → q ∈ s

namespace Enclosed

variable {s : Finset (Entries × Entries)} {p : Entries × Entries}

theorem fails_succ_iff (h : Enclosed s) (hp : p ∈ s) :
    Fails (depth + 1) p ↔ ∃ q ∈ s, Meets p q ∧ Fails depth q := by
  rw [Value.fails_succ_iff (h.distinct p hp)]
  refine exists_congr fun q => ⟨fun hq => ⟨h.meets p hp q hq.1, hq⟩, And.right⟩

/-- What fails at a depth fails at any smaller one. -/
theorem fails_of_succ (h : Enclosed s) (hp : p ∈ s) (hfails : Fails (depth + 1) p) : Fails depth p := by
  induction depth generalizing p with
  | zero => exact fails_zero p
  | succ depth ih =>
      obtain ⟨q, hq, hmeets, hfails⟩ := (h.fails_succ_iff hp).mp hfails
      exact (h.fails_succ_iff hp).mpr ⟨q, hq, hmeets, ih hq hfails⟩

open Classical in
/-- The pairs that are merged at a depth. -/
noncomputable def merged (s : Finset (Entries × Entries)) (depth : ℕ) : Finset (Entries × Entries) :=
  s.filter fun p => ¬ Fails depth p

theorem mem_merged (hp : p ∈ s) : p ∈ merged s depth ↔ ¬ Fails depth p := by
  simp [merged, hp]

theorem merged_subset_succ (h : Enclosed s) (depth : ℕ) : merged s depth ⊆ merged s (depth + 1) := by
  classical
  exact Finset.monotone_filter_right s fun p hp hnot hfails => hnot (h.fails_of_succ hp hfails)

/-- A depth that adds no pair is followed by such ones only. -/
theorem merged_succ_eq (h : Enclosed s) (hsame : merged s depth = merged s (depth + 1)) :
    merged s (depth + 1) = merged s (depth + 2) := by
  have hfails (p : Entries × Entries) (hp : p ∈ s) : Fails depth p ↔ Fails (depth + 1) p := by
    rw [← not_iff_not, ← mem_merged hp, ← mem_merged hp, hsame]
  classical
  refine Finset.filter_congr fun p hp => ?_
  rw [h.fails_succ_iff hp, h.fails_succ_iff hp]
  refine not_congr (exists_congr fun q => and_congr_right fun hq => and_congr_right fun _ => hfails q hq)

/-- **A merge that fails as deep as there are pairs fails at every depth.** -/
theorem fails_of_card_le (h : Enclosed s) (hp : p ∈ s) (hdepth : s.card ≤ depth) (hfails : Fails depth p)
    (n : ℕ) : Fails n p := by
  have hmono : Monotone (merged s) := monotone_nat_of_le_succ h.merged_subset_succ
  have hbound (m : ℕ) : (merged s m).card ≤ s.card := by
    classical
    exact Finset.card_filter_le s _
  have hnext (m : ℕ) (hcard : (merged s m).card = (merged s (m + 1)).card) :
      (merged s (m + 1)).card = (merged s (m + 2)).card := by
    have hsame := Finset.eq_of_subset_of_card_le (h.merged_subset_succ m) hcard.ge
    rw [h.merged_succ_eq hsame]
  have hstable (m : ℕ) (hm : s.card ≤ m) : (merged s m).card = (merged s s.card).card :=
    Nat.stabilises_of_monotone (fun a b hab => Finset.card_le_card (hmono hab)) hbound hnext hm
  have hlater : merged s depth = merged s (max depth n) := by
    refine Finset.eq_of_subset_of_card_le (hmono (Nat.le_max_left depth n)) ?_
    rw [hstable depth hdepth, hstable _ (hdepth.trans (Nat.le_max_left depth n))]
  by_contra hnot
  have hmem := hmono (Nat.le_max_right depth n) ((mem_merged hp).mpr hnot)
  rw [← hlater] at hmem
  exact (mem_merged hp).mp hmem hfails

end Enclosed

/-! ## The depth of a merge -/

/-- The pairs of mappings that come up in two values are enclosed. -/
theorem enclosed_product {v w : Value} {lower upper : Entries} (hv : Unfolds v lower) (hw : Unfolds w upper)
    [DecidableEq Entries] : Enclosed ((mappings v).toFinset ×ˢ (mappings w).toFinset) where
  distinct p hp := by
    rw [Finset.mem_product, List.mem_toFinset, List.mem_toFinset] at hp
    exact (hw.contained.tidy_of_mem_mappings hw.tidy hp.2).1
  meets p hp q := by
    rintro ⟨e, he, u, hu, hlower, hupper⟩
    rw [Finset.mem_product, List.mem_toFinset, List.mem_toFinset] at hp ⊢
    obtain ⟨k, -, hmem⟩ := mem_of_get? hu
    exact ⟨hv.contained.mem_mappings (List.Subset.refl _) hp.1 hmem hlower,
      hw.contained.mem_mappings (List.Subset.refl _) hp.2 he hupper⟩

/-- Two mappings cannot be merged, however deep one goes. -/
def Endless (lower upper : Entries) : Prop :=
  ∀ depth, mergeWithin depth lower upper = .error .endless

/-- **A merge has no end exactly if no depth is enough for it.** -/
theorem merge_eq_endless_iff {v w : Value} (hv : Unfolds v lower) (hw : Unfolds w upper) :
    merge lower upper = .error .endless ↔ Endless lower upper := by
  refine ⟨fun h => ?_, fun h => h _⟩
  classical
  have hmem : (lower, upper) ∈ (mappings v).toFinset ×ˢ (mappings w).toFinset := by
    rw [Finset.mem_product, List.mem_toFinset, List.mem_toFinset]
    exact ⟨mem_mappings_of_opened hv.opened, mem_mappings_of_opened hw.opened⟩
  have hcard : ((mappings v).toFinset ×ˢ (mappings w).toFinset).card ≤
      size (.map lower) * size (.map upper) := by
    rw [Finset.card_product]
    exact Nat.mul_le_mul ((List.toFinset_card_le _).trans (length_mappings_le_of_opened hv.opened))
      ((List.toFinset_card_le _).trans (length_mappings_le_of_opened hw.opened))
  exact (enclosed_product hv hw).fails_of_card_le hmem (Nat.le_succ_of_le hcard) h

/-- Two mappings that are each inside themselves at the same key meet again and again; a finite one is laid over
one of them at the end of its own levels. -/
example :
    let loop : Value := .cyclic 0 (.map [(.text "next", .again 0)])
    merge [(.text "top", loop)] [(.text "top", loop)] = .error .endless ∧
      (merge [(.text "top", loop)] [(.text "top", .map [(.text "next", .null)])]).toOption.isSome :=
  ⟨rfl, rfl⟩

end SolutionSurvey.Value
