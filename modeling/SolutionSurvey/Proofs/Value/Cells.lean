import SolutionSurvey.Proofs.Value.Parts
import SolutionSurvey.Value.Cells
import Mathlib.Data.List.Perm.Subperm

/-!
# Values read off cells

A value that is read off cells has no key twice in any of its mappings. What comes again inside it is around
that place, and no label is used inside a value that has it: labels are the numbers of cells, and where a cell
is inside itself it is not read off once more. The levels are enough for that, for there are no more cells
around a place than cells at all.

## Main definitions

* `Cells.Simple` — values outside cells have no others inside.
* `Unrolled.Sound` — what is known of a value inside the cells around it.
* `Cells.reads_unroll` — that it is known of all that is read off.
-/

namespace SolutionSurvey

open Value (IsLeaf Contained Tidy)

/-- A reference to a value outside cells is to one without others inside. -/
def Ref.Simple : Ref → Prop
  | .plain v => v.IsLeaf
  | .cell _ => True

/-- All references in a cell are simple. -/
def Cell.Simple : Cell → Prop
  | .list items => ∀ r ∈ items, r.Simple
  | .pair a b => a.Simple ∧ b.Simple
  | .set _ => True
  | .map writes => ∀ w ∈ writes, w.2.Simple

/-! ## Values inside cells -/

namespace Unrolled

/-- A value inside the cells `around` has no key twice, and of these cells only the outer ones come again in
it; if it is nowhere inside itself it has no labels. -/
structure Sound (around : List ℕ) (u : Unrolled) : Prop where
  tidy : Tidy u.value
  outer : u.outer ⊆ around
  contained : Contained around u.outer u.value
  tree : u.isTree = true → ∀ kept, Contained kept [] u.value

variable {around : List ℕ} {number : ℕ} {u : Unrolled}

theorem sound_of_isLeaf {v : Value} (h : IsLeaf v) (around : List ℕ) : Sound around ⟨v, [], true⟩ :=
  ⟨h.tidy, List.nil_subset _, .leaf h, fun _ _ => .leaf h⟩

theorem sound_again (h : number ∈ around) : Sound around ⟨.again number, [number], false⟩ :=
  ⟨trivial, List.cons_subset.mpr ⟨h, List.nil_subset _⟩, .again List.mem_cons_self, nofun⟩

/-- A value made of sound ones is sound. -/
theorem sound_combine {make : List Value → Value} {us : List Unrolled} (h : ∀ u ∈ us, Sound around u)
    (htidy : (∀ u ∈ us, Tidy u.value) → Tidy (make (us.map value)))
    (hcontained : ∀ kept labels, (∀ u ∈ us, Contained kept labels u.value) →
      Contained kept labels (make (us.map value))) :
    Sound around (combine make us) where
  tidy := htidy fun u hu => (h u hu).tidy
  outer := by
    intro number hnumber
    obtain ⟨u, hu, hmem⟩ := List.mem_flatMap.mp (List.mem_eraseDups.mp hnumber)
    exact (h u hu).outer hmem
  contained := by
    refine hcontained _ _ fun u hu => (h u hu).contained.mono (List.Subset.refl _) fun number hnumber => ?_
    exact List.mem_eraseDups.mpr (List.mem_flatMap.mpr ⟨u, hu, hnumber⟩)
  tree htree kept := hcontained _ _ fun u hu => (h u hu).tree (List.all_eq_true.mp htree u hu) kept

/-- What is sound inside a cell is sound around it once it has its label. -/
theorem Sound.close (h : Sound (number :: around) u) (hnumber : number ∉ around) :
    Sound around (u.close number) := by
  rw [Unrolled.close]
  split
  · next hempty =>
    have houter : u.outer = [] := List.isEmpty_iff.mp hempty
    refine ⟨h.tidy, houter ▸ List.nil_subset _, ?_, h.tree⟩
    exact h.contained.mono (List.subset_cons_self _ _) (List.Subset.refl _)
  · refine ⟨h.tidy, fun n hn => ?_, .cyclic hnumber (h.contained.mono (List.Subset.refl _) fun n hn => ?_), nofun⟩
    · obtain ⟨hn, hne⟩ := List.mem_filter.mp hn
      exact (List.mem_cons.mp (h.outer hn)).resolve_left (by simpa using hne)
    · by_cases heq : n = number
      · exact heq ▸ List.mem_cons_self
      · exact List.mem_cons_of_mem _ (List.mem_filter.mpr ⟨hn, by simpa using heq⟩)

end Unrolled

/-! ## Reading off -/

namespace Cells

/-- Values outside cells have no others inside. -/
def Simple (cells : Cells) : Prop :=
  ∀ number, (cells.getD number default).Simple

/-- The values that were read off are tidy and have no labels. -/
def Memory.Sound (m : Memory) : Prop :=
  ∀ v, some v ∈ m → Tidy v ∧ ∀ kept, Contained kept [] v

/-- Reading off keeps what was read off sound, and gives what has a property. -/
def Reads {α : Type} (x : StateM Memory α) (p : α → Prop) : Prop :=
  ∀ m : Memory, m.Sound → p (x.run m).1 ∧ Memory.Sound (x.run m).2

namespace Reads

variable {α β : Type} {x : StateM Memory α} {f : α → StateM Memory β} {p : α → Prop} {q : β → Prop}

theorem pure {a : α} (h : p a) : Reads (Pure.pure a) p :=
  fun _ hm => ⟨h, hm⟩

theorem bind (hx : Reads x p) (hf : ∀ a, p a → Reads (f a) q) : Reads (x >>= f) q :=
  fun m hm => hf _ (hx m hm).1 _ (hx m hm).2

theorem mapM {part : α → StateM Memory β} {l : List α} (h : ∀ a ∈ l, Reads (part a) q) :
    Reads (l.mapM part) fun bs => ∀ b ∈ bs, q b := by
  induction l with
  | nil => exact pure nofun
  | cons a rest ih =>
      rw [List.mapM_cons]
      refine bind (h a List.mem_cons_self) fun b hb => ?_
      refine bind (ih fun c hc => h c (List.mem_cons_of_mem _ hc)) fun bs hbs => ?_
      exact pure (List.forall_mem_cons.mpr ⟨hb, hbs⟩)

end Reads

/-- What is left to do with a cell that was read off keeps it sound: it may be remembered, and it gets a
label. -/
theorem reads_finish {around : List ℕ} {number : ℕ} {u : Unrolled} (hu : u.Sound (number :: around))
    (hnumber : number ∉ around) :
    Reads (do
      if u.isTree then modify fun m => m.setIfInBounds number (some u.value)
      pure (u.close number)) (Unrolled.Sound around) := by
  intro m hm
  split
  · next htree =>
    refine ⟨hu.close hnumber, fun v hv => ?_⟩
    rcases Array.mem_or_eq_of_mem_setIfInBounds hv with hold | hnew
    · exact hm v hold
    · rw [Option.some.inj hnew]
      exact ⟨hu.tidy, hu.tree htree⟩
  · exact ⟨hu.close hnumber, hm⟩

/-- There are no more cells around a place than cells. -/
theorem length_le_size {cells : Cells} {around : List ℕ} (hnodup : around.Nodup)
    (hless : ∀ n ∈ around, n < cells.size) : around.length ≤ cells.size := by
  have hsubset : around ⊆ List.range cells.size := fun n hn => List.mem_range.mpr (hless n hn)
  simpa using (List.subperm_of_subset hnodup hsubset).length_le

/-- **What is read off cells is sound.** -/
theorem reads_unroll {cells : Cells} (hcells : cells.Simple) (fuel : ℕ) {around : List ℕ}
    (hnodup : around.Nodup) (hless : ∀ n ∈ around, n < cells.size) (hfuel : cells.size < fuel + around.length)
    {r : Ref} (hr : r.Simple) : Reads (cells.unroll fuel around r) (Unrolled.Sound around) := by
  induction fuel generalizing around r with
  | zero =>
      have := length_le_size hnodup hless
      omega
  | succ fuel ih =>
      cases r with
      | plain v => exact .pure (Unrolled.sound_of_isLeaf hr around)
      | cell number =>
        rw [unroll]
        split
        · next hagain => exact .pure (Unrolled.sound_again (by simpa using hagain))
        · next hnew =>
          have hnumber : number ∉ around := by simpa using hnew
          -- a cell with others inside is one of the cells
          have hpart (hne : cells.getD number default ≠ default) {r : Ref} (hr : r.Simple) :
              Reads (cells.unroll fuel (number :: around) r) (Unrolled.Sound (number :: around)) := by
            have hsize : number < cells.size := by
              by_contra hlarge
              exact hne (by simp [Array.getD, hlarge])
            refine ih (List.nodup_cons.mpr ⟨hnumber, hnodup⟩) (List.forall_mem_cons.mpr ⟨hsize, hless⟩) ?_ hr
            rw [List.length_cons]
            omega
          refine .bind (p := Memory.Sound) (fun m hm => ⟨hm, hm⟩) fun m hm => ?_
          split
          · next v hv =>
            obtain ⟨htidy, htree⟩ := hm v (Array.mem_of_getElem? (Option.join_eq_some_iff.mp hv))
            exact .pure ⟨htidy, List.nil_subset _, htree around, fun _ => htree⟩
          · extract_lets part finish
            have hfinish (u : Unrolled) (hu : u.Sound (number :: around)) :
                Reads (finish u) (Unrolled.Sound around) := reads_finish hu hnumber
            have hcell := hcells number
            split <;> rename_i hcontent <;> rw [hcontent] at hcell hpart
            · have hitem : ∀ r ∈ _, Reads (part r) (Unrolled.Sound (number :: around)) := fun r hr =>
                hpart (fun h => by cases h; cases hr) (hcell r hr)
              refine .bind (.mapM hitem) fun us hus => hfinish _ (Unrolled.sound_combine hus ?_ ?_)
              · exact fun h => Value.tidyItems_iff.mpr (List.forall_mem_map.mpr h)
              · exact fun kept labels h => .list (List.forall_mem_map.mpr h)
            · refine .bind (hpart nofun hcell.1) fun a ha => .bind (hpart nofun hcell.2) fun b hb => hfinish _ ?_
              have hboth : ∀ u ∈ [a, b], u.Sound (number :: around) := by simp [ha, hb]
              refine Unrolled.sound_combine hboth ?_ ?_
              · exact fun h => ⟨h a (by simp), h b (by simp)⟩
              · exact fun kept labels h => .pair (h a (by simp)) (h b (by simp))
            · exact hfinish ⟨.set _, [], true⟩ (Unrolled.sound_of_isLeaf (by trivial) _)
            · have hwrite : ∀ w ∈ (_ : List (Value × Ref)), Reads (part w.2) (Unrolled.Sound (number :: around)) :=
                fun w hw => hpart (fun h => by cases h) (hcell w hw)
              refine .bind (.mapM hwrite) fun us hus => hfinish _ (Unrolled.sound_combine hus ?_ ?_)
              · refine fun h => Value.tidy_ofWrites fun e he => ?_
                exact List.forall_mem_map.mpr h _ (List.of_mem_zip he).2
              · refine fun kept labels h => .map (Value.forall_mem_ofWrites fun e he => ?_)
                exact List.forall_mem_map.mpr h _ (List.of_mem_zip he).2

/-- The value of a reference by itself is sound. -/
theorem sound_valueOf {cells : Cells} (hcells : cells.Simple) {r : Ref} (hr : r.Simple) :
    Tidy (cells.valueOf r) ∧ Contained [] [] (cells.valueOf r) := by
  have hfuel : cells.size < (cells.size + 1) + [].length (α := ℕ) := by simp
  have hread := reads_unroll hcells (cells.size + 1) List.nodup_nil (List.forall_mem_nil _) hfuel hr
  obtain ⟨hsound, -⟩ := hread (Array.replicate cells.size none) fun v hv => by simp at hv
  refine ⟨hsound.tidy, ?_⟩
  have hcontained := hsound.contained
  rwa [List.eq_nil_of_subset_nil hsound.outer] at hcontained

end Cells

end SolutionSurvey
