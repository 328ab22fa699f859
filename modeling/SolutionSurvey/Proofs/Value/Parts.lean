import SolutionSurvey.Proofs.Value.Mapping
import SolutionSurvey.Value.Layered

/-!
# The parts of values inside themselves

A value that is inside itself can be taken apart without end, but only finitely many mappings come up on the
way: one for each mapping in its written form, with the whole put where it comes again. This needs labels to
be used with care, so that nothing is put below another value with its label.

## Main definitions

* `Value.ClosedIn` — whatever comes again inside a value is around that place or has one of some labels.
* `Value.Contained` — the same of values in which no label is used inside a value that has it.
* `Value.mappings` — the mappings that come up, of which there are no more than values inside.
* `Value.Contained.mem_mappings` — that these are all.
* `Value.Unfolds` — a mapping is what a value by itself is opened to.
-/

namespace SolutionSurvey.Value

variable {kept labels : List ℕ} {label : ℕ} {v w : Value} {entries : Entries}

/-! ## Labels -/

/-- A scalar or a set: it has no part that could be inside itself. -/
def IsLeaf : Value → Prop
  | .list _ | .pair .. | .map _ | .cyclic .. | .again _ => False
  | _ => True

theorem isLeaf_ofWording (s : Wording) : IsLeaf (.ofWording s) := by
  cases s <;> trivial

theorem IsLeaf.fill (h : IsLeaf v) (label : ℕ) (whole : Value) : fill label whole v = v := by
  cases v with
  | list | pair | map | cyclic | again => exact h.elim
  | _ => rw [Value.fill] <;> nofun

theorem IsLeaf.tidy (h : IsLeaf v) : Tidy v := by
  cases v with
  | list | pair | map | cyclic | again => exact h.elim
  | _ => trivial

/-- Whatever comes again inside a value is around that place or has one of the `labels`, and no value inside
has a label that is `kept` for others. -/
inductive ClosedIn (kept : List ℕ) : List ℕ → Value → Prop
  | leaf {labels : List ℕ} {v : Value} : IsLeaf v → ClosedIn kept labels v
  | list {labels : List ℕ} {items : List Value} : (∀ v ∈ items, ClosedIn kept labels v) →
      ClosedIn kept labels (.list items)
  | pair {labels : List ℕ} {a b : Value} : ClosedIn kept labels a → ClosedIn kept labels b →
      ClosedIn kept labels (.pair a b)
  | map {labels : List ℕ} {entries : Entries} : (∀ e ∈ entries, ClosedIn kept labels e.2) →
      ClosedIn kept labels (.map entries)
  | cyclic {labels : List ℕ} {label : ℕ} {body : Value} : label ∉ kept →
      ClosedIn kept (label :: labels) body → ClosedIn kept labels (.cyclic label body)
  | again {labels : List ℕ} {label : ℕ} : label ∈ labels → ClosedIn kept labels (.again label)

/-- The same, where the label of a value is kept for it inside. -/
inductive Contained : List ℕ → List ℕ → Value → Prop
  | leaf {kept labels : List ℕ} {v : Value} : IsLeaf v → Contained kept labels v
  | list {kept labels : List ℕ} {items : List Value} : (∀ v ∈ items, Contained kept labels v) →
      Contained kept labels (.list items)
  | pair {kept labels : List ℕ} {a b : Value} : Contained kept labels a → Contained kept labels b →
      Contained kept labels (.pair a b)
  | map {kept labels : List ℕ} {entries : Entries} : (∀ e ∈ entries, Contained kept labels e.2) →
      Contained kept labels (.map entries)
  | cyclic {kept labels : List ℕ} {label : ℕ} {body : Value} : label ∉ kept →
      Contained (label :: kept) (label :: labels) body → Contained kept labels (.cyclic label body)
  | again {kept labels : List ℕ} {label : ℕ} : label ∈ labels → Contained kept labels (.again label)

theorem ClosedIn.mono (h : ClosedIn kept labels v) {kept' labels' : List ℕ} (hkept : kept' ⊆ kept)
    (hlabels : labels ⊆ labels') : ClosedIn kept' labels' v := by
  induction h generalizing labels' with
  | leaf h => exact .leaf h
  | list _ ih => exact .list fun v hv => ih v hv hlabels
  | pair _ _ iha ihb => exact .pair (iha hlabels) (ihb hlabels)
  | map _ ih => exact .map fun e he => ih e he hlabels
  | cyclic hlabel _ ih => exact .cyclic (fun h => hlabel (hkept h)) (ih (List.cons_subset_cons _ hlabels))
  | again h => exact .again (hlabels h)

theorem Contained.mono (h : Contained kept labels v) {kept' labels' : List ℕ} (hkept : kept' ⊆ kept)
    (hlabels : labels ⊆ labels') : Contained kept' labels' v := by
  induction h generalizing kept' labels' with
  | leaf h => exact .leaf h
  | list _ ih => exact .list fun v hv => ih v hv hkept hlabels
  | pair _ _ iha ihb => exact .pair (iha hkept hlabels) (ihb hkept hlabels)
  | map _ ih => exact .map fun e he => ih e he hkept hlabels
  | cyclic hlabel _ ih =>
      have hbody := ih (List.cons_subset_cons _ hkept) (List.cons_subset_cons _ hlabels)
      exact .cyclic (fun h => hlabel (hkept h)) hbody
  | again h => exact .again (hlabels h)

theorem Contained.closedIn (h : Contained kept labels v) : ClosedIn kept labels v := by
  induction h with
  | leaf h => exact .leaf h
  | list _ ih => exact .list ih
  | pair _ _ iha ihb => exact .pair iha ihb
  | map _ ih => exact .map ih
  | cyclic hlabel _ ih => exact .cyclic hlabel (ih.mono (List.subset_cons_self _ _) (List.Subset.refl _))
  | again h => exact .again h

/-! ## Filling -/

theorem fillEntries_eq_map (label : ℕ) (whole : Value) (entries : Entries) :
    fillEntries label whole entries = entries.map fun e => (e.1, fill label whole e.2) := by
  induction entries with
  | nil => simp [fillEntries]
  | cons e rest ih => simp [fillEntries, ih]

/-- There is nothing to fill where a label is not used. -/
theorem ClosedIn.fill_eq_self (h : ClosedIn kept labels v) (hlabel : label ∉ labels) (whole : Value) :
    fill label whole v = v := by
  induction h with
  | leaf h => exact h.fill label whole
  | list _ ih => rw [fill, fillItems_eq_map, List.map_congr_left fun v hv => ih v hv hlabel, List.map_id']
  | pair _ _ iha ihb => rw [fill, iha hlabel, ihb hlabel]
  | map _ ih =>
      rw [fill, fillEntries_eq_map, List.map_congr_left (g := id) fun e he => by rw [ih e he hlabel]; rfl,
        List.map_id]
  | @cyclic labels l body _ _ ih =>
      rw [fill]
      split
      · rfl
      · next hl => rw [ih (by simp [hlabel, Ne.symm hl])]
  | again h =>
      rw [fill, if_neg]
      rintro rfl
      exact hlabel h

/-- A value with a whole put in is closed as the whole is. -/
theorem ClosedIn.filled (h : ClosedIn kept labels v) {labels' : List ℕ} (hlabels : labels ⊆ label :: labels')
    (hw : ClosedIn kept labels' w) : ClosedIn kept labels' (fill label w v) := by
  induction h generalizing labels' with
  | leaf h =>
      rw [h.fill]
      exact .leaf h
  | list _ ih =>
      rw [fill, fillItems_eq_map]
      exact .list (List.forall_mem_map.mpr fun v hv => ih v hv hlabels hw)
  | pair _ _ iha ihb =>
      rw [fill]
      exact .pair (iha hlabels hw) (ihb hlabels hw)
  | map _ ih =>
      rw [fill, fillEntries_eq_map]
      exact .map (List.forall_mem_map.mpr fun e he => ih e he hlabels hw)
  | @cyclic labels l body hl hbody ih =>
      rw [fill]
      split
      · next heq =>
        refine .cyclic hl (hbody.mono (List.Subset.refl _) ?_)
        exact List.cons_subset.mpr ⟨List.mem_cons_self, heq ▸ hlabels⟩
      · refine .cyclic hl (ih ?_ (hw.mono (List.Subset.refl _) (List.subset_cons_self _ _)))
        refine List.cons_subset.mpr ⟨by simp, fun k hk => ?_⟩
        rcases List.mem_cons.mp (hlabels hk) with rfl | hk <;> simp [*]
  | @again labels l hl =>
      rw [fill]
      split
      · exact hw
      · next hne => exact .again ((List.mem_cons.mp (hlabels hl)).resolve_left hne)

/-- Two labels are filled in any order if only the first whole is inside the second one. -/
theorem ClosedIn.fill_fill (h : ClosedIn kept labels v) (hkept : label ∈ kept) {other : ℕ}
    (hother : other ≠ label) (hw : ∀ x, fill other x w = w) (x : Value) :
    fill other (fill label w x) (fill label w v) = fill label w (fill other x v) := by
  induction h with
  | leaf h => simp only [h.fill]
  | list _ ih =>
      simp only [fill, fillItems_eq_map, List.map_map]
      exact congrArg _ (List.map_congr_left ih)
  | pair _ _ iha ihb => simp only [fill, iha, ihb]
  | map _ ih =>
      simp only [fill, fillEntries_eq_map, List.map_map]
      exact congrArg _ (List.map_congr_left fun e he => congrArg _ (ih e he))
  | @cyclic labels l body hl _ ih =>
      have hne : l ≠ label := by
        rintro rfl
        exact hl hkept
      by_cases heq : l = other
      · simp [fill, heq, hother]
      · simp [fill, hne, heq, ih]
  | @again labels l _ =>
      by_cases hl : l = label
      · simp [fill, hl, hw, hother.symm]
      · by_cases heq : l = other
        · simp [fill, heq, hother]
        · simp [fill, hl, heq]

/-- What is filled with a value with a label is a mapping only if it was one. -/
theorem eq_map_of_fill {body : Value} (h : fill label (.cyclic label body) v = .map entries) :
    ∃ es, v = .map es ∧ entries = fillEntries label (.cyclic label body) es := by
  cases v with
  | map es =>
      rw [fill] at h
      cases h
      exact ⟨es, rfl, rfl⟩
  | again l =>
      rw [fill] at h
      split at h <;> cases h
  | _ => simp [fill] at h

/-- Opening and filling may change places, except where the whole itself is put in. -/
theorem opened_fill (hw : ClosedIn kept labels w) (hlabels : labels ⊆ kept) {ls : List ℕ}
    (hv : ClosedIn (label :: kept) ls v) (hne : v ≠ .again label) :
    (fill label w v).opened = fill label w v.opened := by
  cases v with
  | cyclic l body =>
      cases hv with
      | leaf h => exact h.elim
      | cyclic hl hbody =>
        have hother : l ≠ label ∧ l ∉ kept := not_or.mp (mt List.mem_cons.mpr hl)
        have hself (x : Value) : fill l x w = w := hw.fill_eq_self (fun h => hother.2 (hlabels h)) x
        have hcyclic : fill label w (.cyclic l body) = .cyclic l (fill label w body) := by
          rw [fill, if_neg hother.1]
        rw [opened, ← hbody.fill_fill List.mem_cons_self hother.1 hself, hcyclic, opened]
  | again l =>
      have hl : l ≠ label := fun h => hne (congrArg _ h)
      simp [fill, opened, hl]
  | _ => simp [fill, opened]

theorem size_pos (v : Value) : 0 < size v := by
  cases v <;> simp [size]

mutual

/-- Filling makes no value smaller. -/
theorem size_le_size_fill (label : ℕ) (whole : Value) : ∀ v : Value, size v ≤ size (fill label whole v)
  | .list items => by
      simp only [fill, size]
      exact Nat.succ_le_succ (sizeItems_le_sizeItems_fill label whole items)
  | .pair a b => by
      simp only [fill, size]
      exact Nat.succ_le_succ (Nat.add_le_add (size_le_size_fill label whole a) (size_le_size_fill label whole b))
  | .map entries => by
      simp only [fill, size]
      exact Nat.succ_le_succ (sizeEntries_le_sizeEntries_fill label whole entries)
  | .cyclic l body => by
      rw [fill]
      split
      · exact Nat.le_refl _
      · simp only [size]
        exact Nat.succ_le_succ (size_le_size_fill label whole body)
  | .again l => by
      rw [fill]
      split
      · exact size_pos whole
      · exact Nat.le_refl _
  | .null | .bool _ | .int _ | .float _ | .text _ | .broken .. | .bytes _ | .date .. | .moment _ | .set _ => by
      simp [fill]

theorem sizeItems_le_sizeItems_fill (label : ℕ) (whole : Value) : ∀ items : List Value,
    sizeItems items ≤ sizeItems (fillItems label whole items)
  | [] => by simp [fillItems]
  | v :: rest => by
      simp only [fillItems, sizeItems]
      exact Nat.add_le_add (size_le_size_fill label whole v) (sizeItems_le_sizeItems_fill label whole rest)

theorem sizeEntries_le_sizeEntries_fill (label : ℕ) (whole : Value) : ∀ entries : List (Value × Value),
    sizeEntries entries ≤ sizeEntries (fillEntries label whole entries)
  | [] => by simp [fillEntries]
  | (_, v) :: rest => by
      simp only [fillEntries, sizeEntries]
      exact Nat.add_le_add (size_le_size_fill label whole v) (sizeEntries_le_sizeEntries_fill label whole rest)

end

/-! ## Mappings inside -/

mutual

/-- The mappings that come up when a value is taken apart. -/
def mappings : Value → List Entries
  | .map entries => entries :: mappingsOfEntries entries
  | .cyclic label body => (mappings body).map (fillEntries label (.cyclic label body))
  | _ => []

/-- The same for the values of some entries. -/
def mappingsOfEntries : List (Value × Value) → List Entries
  | [] => []
  | (_, v) :: rest => mappings v ++ mappingsOfEntries rest

end

theorem IsLeaf.mappings (h : IsLeaf v) : mappings v = [] := by
  cases v with
  | list | pair | map | cyclic | again => exact h.elim
  | _ => rw [Value.mappings] <;> nofun

theorem mem_mappings_map {entries es : Entries} :
    es ∈ mappings (.map entries) ↔ es = entries ∨ ∃ e ∈ entries, es ∈ mappings e.2 := by
  have hvalues : es ∈ mappingsOfEntries entries ↔ ∃ e ∈ entries, es ∈ mappings e.2 := by
    induction entries with
    | nil => simp [mappingsOfEntries]
    | cons e rest ih => simp [mappingsOfEntries, ih]
  rw [mappings, List.mem_cons, hvalues]

theorem mem_mappings_cyclic {body : Value} {es : Entries} :
    es ∈ mappings (.cyclic label body) ↔
      ∃ ds ∈ mappings body, fillEntries label (.cyclic label body) ds = es := by
  rw [mappings, List.mem_map]

mutual

/-- There are no more mappings than values inside. -/
theorem length_mappings_le : ∀ v : Value, (mappings v).length ≤ size v
  | .map entries => by
      rw [mappings, size, List.length_cons]
      exact Nat.succ_le_succ (length_mappingsOfEntries_le entries)
  | .cyclic label body => by
      rw [mappings, size, List.length_map]
      exact Nat.le_succ_of_le (length_mappings_le body)
  | .list _ | .pair .. | .null | .bool _ | .int _ | .float _ | .text _ | .broken .. | .bytes _ | .date ..
  | .moment _ | .set _ | .again _ => by simp [mappings]

theorem length_mappingsOfEntries_le : ∀ entries : List (Value × Value),
    (mappingsOfEntries entries).length ≤ sizeEntries entries
  | [] => by simp [mappingsOfEntries]
  | (_, v) :: rest => by
      rw [mappingsOfEntries, sizeEntries, List.length_append]
      exact Nat.add_le_add (length_mappings_le v) (length_mappingsOfEntries_le rest)

end

/-- A value that can be opened to a mapping comes up as that one. -/
theorem mem_mappings_of_opened (h : v.opened = .map entries) : entries ∈ mappings v := by
  cases v with
  | map es =>
      cases h
      exact mem_mappings_map.mpr (.inl rfl)
  | cyclic label body =>
      obtain ⟨es, rfl, rfl⟩ := eq_map_of_fill h
      exact mem_mappings_cyclic.mpr ⟨es, mem_mappings_map.mpr (.inl rfl), rfl⟩
  | _ => cases h

/-- So there are no more of these than values inside the mapping. -/
theorem length_mappings_le_of_opened (h : v.opened = .map entries) :
    (mappings v).length ≤ size (.map entries) := by
  rw [← h]
  cases v with
  | cyclic label body =>
      rw [mappings, List.length_map]
      exact Nat.le_trans (length_mappings_le body) (size_le_size_fill label _ body)
  | _ => exact length_mappings_le _

theorem Contained.closedIn_of_mem_mappings (h : Contained kept labels v) (hes : entries ∈ mappings v) :
    ClosedIn kept labels (.map entries) := by
  induction h generalizing entries with
  | map h ih =>
      rcases mem_mappings_map.mp hes with rfl | ⟨e, he, hes⟩
      · exact (Contained.map h).closedIn
      · exact ih e he hes
  | cyclic hlabel h ih =>
      obtain ⟨ds, hds, rfl⟩ := mem_mappings_cyclic.mp hes
      have hopen := (ih hds).mono (List.subset_cons_self _ _) (List.Subset.refl _)
      have hfilled := hopen.filled (List.Subset.refl _) (Contained.cyclic hlabel h).closedIn
      rwa [fill] at hfilled
  | leaf h =>
      rw [h.mappings] at hes
      cases hes
  | list | pair | again => simp [mappings] at hes

/-- The mappings that come up in a tidy value are tidy. -/
theorem Contained.tidy_of_mem_mappings (h : Contained kept labels v) (htidy : Tidy v) (hes : entries ∈ mappings v) :
    Tidy (.map entries) := by
  induction h generalizing entries with
  | map h ih =>
      rcases mem_mappings_map.mp hes with rfl | ⟨e, he, hes⟩
      · exact htidy
      · exact ih e he (tidyEntries_iff.mp htidy.2 e he) hes
  | @cyclic kept labels label body _ _ ih =>
      obtain ⟨ds, hds, rfl⟩ := mem_mappings_cyclic.mp hes
      have hfilled : Tidy (fill label (.cyclic label body) (.map ds)) := Tidy.fill htidy (ih htidy hds)
      rwa [fill] at hfilled
  | leaf h =>
      rw [h.mappings] at hes
      cases hes
  | list | pair | again => simp [mappings] at hes

/-- **What is inside a mapping that comes up comes up**, if it can be opened to a mapping. -/
theorem Contained.mem_mappings (h : Contained kept labels v) (hlabels : labels ⊆ kept) {es : Entries}
    (hes : es ∈ mappings v) {e : Value × Value} (he : e ∈ es) (hopened : e.2.opened = .map entries) :
    entries ∈ mappings v := by
  induction h generalizing es e entries with
  | @map kept labels fields h ih =>
      rw [mem_mappings_map] at hes ⊢
      right
      rcases hes with rfl | ⟨d, hd, hes⟩
      · exact ⟨e, he, mem_mappings_of_opened hopened⟩
      · exact ⟨d, hd, ih d hd hlabels hes he hopened⟩
  | @cyclic kept labels label body hlabel h ih =>
      obtain ⟨ds, hds, rfl⟩ := mem_mappings_cyclic.mp hes
      rw [fillEntries_eq_map] at he
      obtain ⟨d, hd, rfl⟩ := List.mem_map.mp he
      by_cases hagain : d.2 = .again label
      · -- the whole comes again
        rw [hagain, fill, if_pos rfl] at hopened
        exact mem_mappings_of_opened hopened
      · have hwhole := (Contained.cyclic hlabel h).closedIn
        have hd2 : ClosedIn (label :: kept) (label :: labels) d.2 := by
          cases h.closedIn_of_mem_mappings hds with
          | leaf h => exact h.elim
          | map h => exact h d hd
        rw [opened_fill hwhole hlabels hd2 hagain] at hopened
        obtain ⟨xs, hxs, rfl⟩ := eq_map_of_fill hopened
        have hmem := ih (List.cons_subset_cons label hlabels) hds hd hxs
        exact mem_mappings_cyclic.mpr ⟨xs, hmem, rfl⟩
  | leaf h =>
      rw [h.mappings] at hes
      cases hes
  | list | pair | again => simp [mappings] at hes

/-! ## Mappings by themselves -/

/-- A mapping is what a value by itself is opened to, one that has no key twice. -/
structure Unfolds (v : Value) (entries : Entries) : Prop where
  contained : Contained [] [] v
  tidy : Tidy v
  opened : v.opened = .map entries

theorem Unfolds.tidy_map (h : Unfolds v entries) : Tidy (.map entries) := by
  rw [← h.opened]
  exact h.tidy.opened

/-- The mapping without entries. -/
theorem unfolds_nil : Unfolds (.map []) [] :=
  ⟨.map (List.forall_mem_nil _), ⟨distinct_nil, trivial⟩, rfl⟩

end SolutionSurvey.Value
