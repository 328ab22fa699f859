import SolutionSurvey.Value.Cycle
import SolutionSurvey.Value.Merge
import Mathlib.Data.List.Pairwise

/-!
# Mappings and layers of them

Naming the same entry is symmetric and transitive, so look-up after a write is what one expects of a
mapping. One mapping laid over another one shows at a key what the upper one has there, laid over what the
lower one has if both are mappings, and what the lower one has if the upper one has nothing.

## Main definitions

* `Value.Distinct` — no two entries have the same key.
* `Value.Tidy` — the same in all mappings inside a value.
* `Value.get?_put` — look-up after a write.
* `Value.get?_overlay` — what stands at a key of layered mappings.
-/

namespace SolutionSurvey.Value

/-! ## Keys -/

/-- A number names the same entry as what counts as the same number. -/
theorem sameKey_of_keyNumber? {a : Value} {m : KeyNumber} (h : a.keyNumber? = some m) (b : Value) :
    a.sameKey b = (b.keyNumber? == some m) := by
  rcases hb : b.keyNumber? with _ | n
  · cases a with
    | bool | int | float => simp [sameKey, hb]
    | _ => simp [keyNumber?] at h
  · cases a with
    | bool | int | float => simp [sameKey, h, hb, Bool.beq_comm (a := n)]
    | _ => simp [keyNumber?] at h

theorem sameKey_symm {a b : Value} (h : a.sameKey b) : b.sameKey a := by
  fun_induction sameKey a b with
  | case1 => rfl
  | case2 a b | case4 a b =>
      obtain rfl := eq_of_beq h
      simp [sameKey]
  | case6 => simp [sameKey, eq_of_beq h]
  | case3 | case5 =>
      simp only [Bool.and_eq_true, beq_iff_eq] at h
      simp [sameKey, h]
  | case7 a b c d ih1 ih2 =>
      rw [Bool.and_eq_true] at h
      simp only [sameKey, Bool.and_eq_true]
      exact ⟨ih1 h.1, ih2 h.2⟩
  | case8 a b _ _ _ _ _ _ _ m n hn hm =>
      rw [sameKey_of_keyNumber? hn, hm, eq_of_beq h]
      exact beq_self_eq_true _
  | case9 => simp at h

theorem sameKey_trans {a b c : Value} (h : a.sameKey b) (h' : b.sameKey c) : a.sameKey c := by
  fun_induction sameKey a b generalizing c with
  | case1 => exact h'
  | case2 a b | case4 a b =>
      rw [eq_of_beq h]
      exact h'
  | case6 a b =>
      cases c with
      | moment c =>
          simp only [sameKey] at h' ⊢
          rwa [eq_of_beq h]
      | _ => simp [sameKey, keyNumber?] at h'
  | case3 | case5 =>
      simp only [Bool.and_eq_true, beq_iff_eq] at h
      rw [h.1.1, h.1.2, h.2]
      exact h'
  | case7 a b x y ih1 ih2 =>
      rw [Bool.and_eq_true] at h
      cases c with
      | pair c d =>
          simp only [sameKey, Bool.and_eq_true] at h' ⊢
          exact ⟨ih1 h.1 h'.1, ih2 h.2 h'.2⟩
      | _ => simp [sameKey, keyNumber?] at h'
  | case8 a b _ _ _ _ _ _ _ m n hn hm =>
      rw [sameKey_of_keyNumber? hn] at h'
      rw [sameKey_of_keyNumber? hm, eq_of_beq h]
      exact h'
  | case9 => simp at h

/-- Keys that name the same entry are the same as the same other keys. -/
theorem sameKey_congr {a b : Value} (h : a.sameKey b) (c : Value) : a.sameKey c = b.sameKey c :=
  Bool.eq_iff_iff.mpr ⟨sameKey_trans (sameKey_symm h), sameKey_trans h⟩

theorem sameKey_comm (a b : Value) : a.sameKey b = b.sameKey a :=
  Bool.eq_iff_iff.mpr ⟨sameKey_symm, sameKey_symm⟩

/-- Only an equal text names the entry of a text. -/
theorem sameKey_text_iff {a : Value} {s : String} : a.sameKey (.text s) ↔ a = .text s := by
  cases a <;> simp [sameKey, keyNumber?]

/-! ## Look-up and writes -/

/-- Look-up is the same for keys that name the same entry. -/
theorem get?_congr {a b : Value} (h : a.sameKey b) (entries : Entries) :
    get? a entries = get? b entries := by
  induction entries with
  | nil => rfl
  | cons e rest ih =>
      rw [get?, get?, ih, sameKey_comm e.1 a, sameKey_comm e.1 b, sameKey_congr h]

/-- **After a write a key has its new value**, and all others have theirs. -/
theorem get?_put (key value other : Value) (entries : Entries) :
    get? other (put key value entries) = if key.sameKey other then some value else get? other entries := by
  induction entries with
  | nil => rfl
  | cons e rest ih =>
      rw [put]
      by_cases hkey : e.1.sameKey key
      · rw [if_pos hkey, get?, get?, sameKey_congr hkey]
        split <;> rfl
      · rw [if_neg hkey, get?, get?, ih]
        by_cases hother : e.1.sameKey other
        · have hnot : ¬ key.sameKey other := fun h => hkey (sameKey_trans hother (sameKey_symm h))
          rw [if_pos hother, if_neg hnot, if_pos hother]
        · rw [if_neg hother, if_neg hother]

/-- A write keeps the keys, and may put a new one at their end. -/
theorem map_fst_put (key value : Value) (entries : Entries) :
    (put key value entries).map Prod.fst =
      if entries.any fun e => e.1.sameKey key then entries.map Prod.fst
      else entries.map Prod.fst ++ [key] := by
  induction entries with
  | nil => rfl
  | cons e rest ih =>
      rw [put, List.any_cons]
      by_cases hkey : e.1.sameKey key
      · simp [hkey]
      · rw [if_neg hkey, List.map_cons, ih, Bool.eq_false_iff.mpr hkey, Bool.false_or]
        split <;> simp

theorem mem_of_get? {key value : Value} {entries : Entries} (h : get? key entries = some value) :
    ∃ k, k.sameKey key ∧ (k, value) ∈ entries := by
  induction entries with
  | nil => simp [get?] at h
  | cons e rest ih =>
      rw [get?] at h
      by_cases hkey : e.1.sameKey key
      · rw [if_pos hkey, Option.some.injEq] at h
        exact ⟨e.1, hkey, by simp [← h]⟩
      · rw [if_neg hkey] at h
        obtain ⟨k, hk, hmem⟩ := ih h
        exact ⟨k, hk, List.mem_cons_of_mem _ hmem⟩

theorem mem_of_get?_text {name : String} {value : Value} {entries : Entries}
    (h : get? (.text name) entries = some value) : (.text name, value) ∈ entries := by
  obtain ⟨k, hk, hmem⟩ := mem_of_get? h
  rwa [← sameKey_text_iff.mp hk]

theorem get?_eq_none_iff {key : Value} {entries : Entries} :
    get? key entries = none ↔ ∀ e ∈ entries, e.1.sameKey key = false := by
  induction entries with
  | nil => simp [get?]
  | cons e rest ih =>
      rw [get?, List.forall_mem_cons, ← ih]
      by_cases hkey : e.1.sameKey key
      · simp [hkey]
      · simp [hkey]

/-- A write brings no other value than the written one. -/
theorem forall_mem_put {p : Value → Prop} {key value : Value} {entries : Entries} (hvalue : p value)
    (h : ∀ e ∈ entries, p e.2) : ∀ e ∈ put key value entries, p e.2 := by
  induction entries with
  | nil => simpa [put] using hvalue
  | cons e rest ih =>
      obtain ⟨hfirst, hrest⟩ := List.forall_mem_cons.mp h
      rw [put]
      split
      · exact List.forall_mem_cons.mpr ⟨hvalue, hrest⟩
      · exact List.forall_mem_cons.mpr ⟨hfirst, ih hrest⟩

theorem entries?_eq_some {v : Value} {entries : Entries} : v.entries? = some entries ↔ v = .map entries := by
  cases v <;> simp [entries?]

/-! ## Mappings without repeated keys -/

/-- No two entries have the same key. -/
def Distinct (entries : Entries) : Prop :=
  (entries.map Prod.fst).Pairwise fun a b => a.sameKey b = false

theorem distinct_nil : Distinct [] :=
  List.Pairwise.nil

theorem distinct_cons {e : Value × Value} {rest : Entries} :
    Distinct (e :: rest) ↔ get? e.1 rest = none ∧ Distinct rest := by
  rw [Distinct, List.map_cons, List.pairwise_cons, get?_eq_none_iff, List.forall_mem_map]
  simp only [sameKey_comm e.1]
  rfl

/-- An entry is found by its key. -/
theorem get?_of_mem {entries : Entries} (h : Distinct entries) {e : Value × Value} (he : e ∈ entries)
    (hself : e.1.sameKey e.1) : get? e.1 entries = some e.2 := by
  induction entries with
  | nil => cases he
  | cons d rest ih =>
      obtain ⟨hnew, hrest⟩ := distinct_cons.mp h
      rw [get?]
      rcases List.mem_cons.mp he with rfl | he
      · rw [if_pos hself]
      · have hother : ¬ d.1.sameKey e.1 := fun hsame => by
          rw [get?_eq_none_iff] at hnew
          simpa [sameKey_comm e.1, hsame] using hnew e he
        rw [if_neg hother, ih hrest he]

theorem distinct_put {entries : Entries} (h : Distinct entries) (key value : Value) :
    Distinct (put key value entries) := by
  rw [Distinct, map_fst_put]
  split
  · exact h
  · next hnew =>
    refine List.pairwise_append.mpr ⟨h, List.pairwise_singleton _ _, ?_⟩
    intro a ha b hb
    obtain ⟨e, he, rfl⟩ := List.mem_map.mp ha
    rw [List.mem_singleton.mp hb]
    exact Bool.eq_false_iff.mpr fun hsame => hnew (List.any_eq_true.mpr ⟨e, he, hsame⟩)

theorem distinct_foldl_put {entries : Entries} (h : Distinct entries) (writes : Entries) :
    Distinct (writes.foldl (fun es e => put e.1 e.2 es) entries) := by
  induction writes generalizing entries with
  | nil => exact h
  | cons e rest ih => exact ih (distinct_put h e.1 e.2)

/-- What writes leave has no key twice. -/
theorem distinct_ofWrites (writes : Entries) : Distinct (ofWrites writes) :=
  distinct_foldl_put distinct_nil writes

theorem put_of_get?_eq_none {key : Value} {entries : Entries} (h : get? key entries = none)
    (value : Value) :
    put key value entries = entries ++ [(key, value)] := by
  induction entries with
  | nil => rfl
  | cons e rest ih =>
      rw [get?] at h
      by_cases hkey : e.1.sameKey key
      · rw [if_pos hkey] at h
        cases h
      · rw [if_neg hkey] at h
        rw [put, if_neg hkey, ih h, List.cons_append]

/-- Where no key is repeated, the first entries do not have the key of a later one. -/
theorem get?_eq_none_of_distinct_append {done rest : Entries} {e : Value × Value}
    (h : Distinct (done ++ e :: rest)) : get? e.1 done = none := by
  rw [Distinct, List.map_append, List.pairwise_append] at h
  exact get?_eq_none_iff.mpr fun d hd => h.2.2 d.1 (List.mem_map_of_mem hd) e.1 (by simp)

/-- Writing entries without repeated keys leaves these entries. -/
theorem ofWrites_of_distinct {entries : Entries} (h : Distinct entries) : ofWrites entries = entries := by
  suffices ∀ done, Distinct (done ++ entries) →
      entries.foldl (fun es e => put e.1 e.2 es) done = done ++ entries from this [] h
  clear h
  induction entries with
  | nil => exact fun done _ => (List.append_nil done).symm
  | cons e rest ih =>
      intro done hdone
      rw [List.foldl_cons, put_of_get?_eq_none (get?_eq_none_of_distinct_append hdone),
        ih _ (by simpa using hdone), List.append_assoc, List.singleton_append]

/-! ## Layers -/

/-- Only a mapping is laid over what stood there before. -/
theorem laidOver_of_ne_map {v : Value} (h : ∀ entries, v ≠ .map entries) (below : Option Value) :
    laidOver below v = v := by
  cases v with
  | map entries => exact absurd rfl (h entries)
  | _ => rw [laidOver]; nofun

/-- Over nothing a value stays as it is. -/
theorem laidOver_none : laidOver none = id := by
  funext v
  cases v <;> rfl

/-- **What layered mappings have at a key**: what the upper one has, laid over what the lower one has; and
what the lower one has where the upper one has nothing. -/
theorem get?_overlay (lower : Entries) {upper : Entries} (h : Distinct upper) (key : Value) :
    get? key (overlay lower upper) =
      ((get? key upper).map (laidOver (get? key lower))).or (get? key lower) := by
  induction upper generalizing lower with
  | nil => simp [get?]
  | cons e rest ih =>
      obtain ⟨hnew, hrest⟩ := distinct_cons.mp h
      rw [overlay, ih _ hrest, get?_put, get?]
      by_cases hkey : e.1.sameKey key
      · -- Nothing after the entry has its key.
        rw [get?_congr hkey] at hnew
        simp [hkey, hnew, get?_congr hkey]
      · simp [hkey]

/-! ## Values without repeated keys -/

mutual

/-- No mapping inside a value has a key twice. -/
def Tidy : Value → Prop
  | .list items => TidyItems items
  | .pair a b => Tidy a ∧ Tidy b
  | .map entries => Distinct entries ∧ TidyEntries entries
  | .cyclic _ body => Tidy body
  | _ => True

/-- The same for the items of a list. -/
def TidyItems : List Value → Prop
  | [] => True
  | v :: rest => Tidy v ∧ TidyItems rest

/-- The same for the values of a mapping. -/
def TidyEntries : List (Value × Value) → Prop
  | [] => True
  | (_, v) :: rest => Tidy v ∧ TidyEntries rest

end

theorem tidyItems_iff {items : List Value} : TidyItems items ↔ ∀ v ∈ items, Tidy v := by
  induction items with
  | nil => simp [TidyItems]
  | cons v rest ih => rw [TidyItems, ih, List.forall_mem_cons]

theorem tidyEntries_iff {entries : Entries} : TidyEntries entries ↔ ∀ e ∈ entries, Tidy e.2 := by
  induction entries with
  | nil => simp [TidyEntries]
  | cons e rest ih => rw [TidyEntries, ih, List.forall_mem_cons]

/-- What holds of all values that are written holds of those that they leave. -/
theorem forall_mem_ofWrites {p : Value → Prop} {writes : Entries} (h : ∀ e ∈ writes, p e.2) :
    ∀ e ∈ ofWrites writes, p e.2 := by
  suffices ∀ entries : Entries, (∀ e ∈ entries, p e.2) →
      ∀ e ∈ writes.foldl (fun es e => put e.1 e.2 es) entries, p e.2 from this [] (List.forall_mem_nil _)
  induction writes with
  | nil => exact fun entries hentries => hentries
  | cons e rest ih =>
      obtain ⟨hfirst, hrest⟩ := List.forall_mem_cons.mp h
      exact fun entries hentries => ih hrest _ (forall_mem_put hfirst hentries)

/-- Writing tidy values gives a tidy mapping. -/
theorem tidy_ofWrites {writes : Entries} (h : ∀ e ∈ writes, Tidy e.2) : Tidy (.map (ofWrites writes)) :=
  ⟨distinct_ofWrites writes, tidyEntries_iff.mpr (forall_mem_ofWrites h)⟩

mutual

/-- Filling the places of a label with a tidy value keeps a value tidy. -/
theorem Tidy.fill {label : ℕ} {whole : Value} (hwhole : Tidy whole) :
    ∀ {v : Value}, Tidy v → Tidy (fill label whole v)
  | .again l, _ => by
      rw [Value.fill]
      split
      · exact hwhole
      · trivial
  | .cyclic l body, h => by
      rw [Value.fill, Tidy]
      split
      · exact h
      · exact Tidy.fill hwhole h
  | .list items, h => by
      rw [Value.fill, Tidy]
      exact TidyItems.fill hwhole h
  | .pair a b, h => by
      rw [Value.fill, Tidy]
      exact ⟨Tidy.fill hwhole h.1, Tidy.fill hwhole h.2⟩
  | .map entries, h => by
      rw [Value.fill, Tidy, Distinct, map_fst_fillEntries]
      exact ⟨h.1, TidyEntries.fill hwhole h.2⟩
  | .null, _ | .bool _, _ | .int _, _ | .float _, _ | .text _, _ | .broken .., _ | .bytes _, _ | .date .., _
  | .moment _, _ | .set _, _ => by simp [Value.fill, Tidy]

theorem TidyItems.fill {label : ℕ} {whole : Value} (hwhole : Tidy whole) :
    ∀ {items : List Value}, TidyItems items → TidyItems (fillItems label whole items)
  | [], _ => by simp [TidyItems]
  | v :: rest, h => by
      rw [Value.fillItems, TidyItems]
      exact ⟨Tidy.fill hwhole h.1, TidyItems.fill hwhole h.2⟩

theorem TidyEntries.fill {label : ℕ} {whole : Value} (hwhole : Tidy whole) :
    ∀ {entries : Entries}, TidyEntries entries → TidyEntries (fillEntries label whole entries)
  | [], _ => by simp [Value.fillEntries, TidyEntries]
  | (k, v) :: rest, h => by
      rw [Value.fillEntries, TidyEntries]
      exact ⟨Tidy.fill hwhole h.1, TidyEntries.fill hwhole h.2⟩

end

/-- A tidy value stays tidy when it is opened. -/
theorem Tidy.opened {v : Value} (h : Tidy v) : Tidy v.opened := by
  cases v with
  | cyclic label body => exact Tidy.fill h h
  | _ => exact h

end SolutionSurvey.Value
