import SolutionSurvey.Proofs.Value.Merging

/-!
# Places in layered mappings

A place in nested mappings is a path of keys. What layered mappings have at a place is what the upper one
has there, laid over what the lower one has; where the upper one has nothing there it is what the lower one
has, unless a value that is no mapping hides the place. A layer that is laid over another one twice changes
nothing the second time.

## Main definitions

* `Value.at?` — what stands at a place.
* `Value.Nested` — mappings in which each key names one entry, and so on inside them.
* `Value.Hides` — a value that is no mapping stands above a place.
* `Value.overlay_spec` — what layered mappings have at a place, and how layers cancel out.
-/

namespace SolutionSurvey.Value

/-! ## Places -/

/-- What stands at a place. -/
def at? : List Value → Value → Option Value
  | [], v => some v
  | key :: path, .map entries => (get? key entries).bind (at? path)
  | _ :: _, _ => none

/-- A value is a mapping. -/
def IsMapping (v : Value) : Prop :=
  ∃ entries, v = .map entries

/-- Above a place stands a value that is no mapping. -/
def Hides (path : List Value) (v : Value) : Prop :=
  ∃ above w, above <+: path ∧ above ≠ path ∧ at? above v = some w ∧ ¬ IsMapping w

variable {v w key : Value} {path : List Value} {lower upper : Entries}

@[simp] theorem at?_nil (v : Value) : at? [] v = some v := by
  rw [at?]

@[simp] theorem at?_cons_map (key : Value) (path : List Value) (entries : Entries) :
    at? (key :: path) (.map entries) = (get? key entries).bind (at? path) := by
  rw [at?]

theorem at?_key (key : Value) (entries : Entries) : at? [key] (.map entries) = get? key entries := by
  cases h : get? key entries <;> simp [h]

theorem not_isMapping_iff : ¬ IsMapping v ↔ ∀ entries, v ≠ .map entries :=
  not_exists

/-- A value that is no mapping has nothing inside it. -/
theorem at?_of_not_isMapping (h : ¬ IsMapping v) (hne : path ≠ []) : at? path v = none := by
  obtain ⟨key, path, rfl⟩ := List.exists_cons_of_ne_nil hne
  cases v with
  | map entries => exact absurd ⟨entries, rfl⟩ h
  | _ => rfl

theorem at?_append (path later : List Value) (v : Value) :
    at? (path ++ later) v = (at? path v).bind (at? later) := by
  induction path generalizing v with
  | nil => rw [List.nil_append, at?_nil, Option.bind_some]
  | cons key path ih =>
      by_cases hv : IsMapping v
      · obtain ⟨entries, rfl⟩ := hv
        rw [List.cons_append, at?_cons_map, at?_cons_map, Option.bind_assoc]
        exact congrArg _ (funext ih)
      · rw [at?_of_not_isMapping hv (by simp), at?_of_not_isMapping hv (by simp), Option.bind_none]

/-- What stands at a place is inside what stands at its first key. -/
theorem at?_cons (key : Value) (path : List Value) (v : Value) :
    at? (key :: path) v = (at? [key] v).bind (at? path) :=
  at?_append [key] path v

theorem bind_at?_cons (below : Option Value) (key : Value) (path : List Value) :
    below.bind (at? (key :: path)) = (below.bind (at? [key])).bind (at? path) := by
  rw [Option.bind_assoc]
  exact congrArg _ (funext fun w => at?_cons key path w)

/-! ## Nested mappings -/

mutual

/-- In a mapping every key can be looked up, which a list or a mapping cannot, and names one entry; and so
on inside it. -/
def Nested : Value → Prop
  | .map entries => Distinct entries ∧ NestedEntries entries
  | _ => True

/-- The same for some entries. -/
def NestedEntries : List (Value × Value) → Prop
  | [] => True
  | (key, v) :: rest => key.sameKey key ∧ Nested v ∧ NestedEntries rest

end

theorem nestedEntries_iff {entries : Entries} :
    NestedEntries entries ↔ ∀ e ∈ entries, e.1.sameKey e.1 ∧ Nested e.2 := by
  induction entries with
  | nil => simp [NestedEntries]
  | cons e rest ih => rw [NestedEntries, ih, List.forall_mem_cons, and_assoc]

theorem Nested.distinct {entries : Entries} (h : Nested (.map entries)) : Distinct entries := by
  rw [Nested] at h
  exact h.1

theorem Nested.entries {entries : Entries} (h : Nested (.map entries)) :
    ∀ e ∈ entries, e.1.sameKey e.1 ∧ Nested e.2 := by
  rw [Nested] at h
  exact nestedEntries_iff.mp h.2

theorem Nested.of_get? {entries : Entries} (h : Nested (.map entries)) (hget : get? key entries = some v) :
    Nested v := by
  obtain ⟨k, -, hmem⟩ := mem_of_get? hget
  exact (h.entries _ hmem).2

/-! ## Places in layers -/

/-- A mapping over anything but a mapping stays whole. -/
theorem laidOver_map_of_ne_map {below : Option Value} (h : ∀ lower, below ≠ some (.map lower)) :
    laidOver below (.map upper) = .map upper := by
  rw [laidOver]
  exact h

/-- What a mapping laid over something has at a key. -/
theorem at?_key_laidOver (hupper : Distinct upper) (below : Option Value) (key : Value) :
    at? [key] (laidOver below (.map upper)) =
      ((get? key upper).map (laidOver (below.bind (at? [key])))).or (below.bind (at? [key])) := by
  by_cases hbelow : ∃ lower, below = some (.map lower)
  · obtain ⟨lower, rfl⟩ := hbelow
    rw [laidOver, at?_key, get?_overlay lower hupper, Option.bind_some, at?_key]
  · have hnone : below.bind (at? [key]) = none := by
      rcases below with _ | w
      · rfl
      · refine at?_of_not_isMapping ?_ (List.cons_ne_nil key [])
        rintro ⟨lower, rfl⟩
        exact hbelow ⟨lower, rfl⟩
    rw [laidOver_map_of_ne_map (not_exists.mp hbelow), at?_key, hnone, laidOver_none, Option.map_id, id,
      Option.or_none]

/-- **A place where the upper value has something** has this, laid over what was there before. -/
theorem at?_laidOver_of_some (hv : Nested v) (below : Option Value) (hat : at? path v = some w) :
    at? path (laidOver below v) = some (laidOver (below.bind (at? path)) w) := by
  induction path generalizing v below with
  | nil =>
      obtain rfl : v = w := by simpa using hat
      have hbelow : below.bind (at? []) = below := (congrArg _ (funext at?_nil)).trans (Option.bind_fun_some _)
      rw [at?_nil, hbelow]
  | cons key path ih =>
      by_cases hmap : IsMapping v
      · obtain ⟨upper, rfl⟩ := hmap
        rw [at?_cons_map, Option.bind_eq_some_iff] at hat
        obtain ⟨u, hu, hat⟩ := hat
        rw [at?_cons, at?_key_laidOver hv.distinct, hu, Option.map_some, Option.some_or, Option.bind_some,
          ih (hv.of_get? hu) _ hat, bind_at?_cons below key path]
      · rw [at?_of_not_isMapping hmap (by simp)] at hat
        cases hat

/-- **A place where the upper value has nothing**, and nothing of it hides the place, has what was there
before. -/
theorem at?_laidOver_of_none (hv : Nested v) (below : Option Value) (hat : at? path v = none)
    (hshown : ¬ Hides path v) : at? path (laidOver below v) = below.bind (at? path) := by
  induction path generalizing v below with
  | nil => simp at hat
  | cons key path ih =>
      by_cases hmap : IsMapping v
      · obtain ⟨upper, rfl⟩ := hmap
        rw [at?_cons, at?_key_laidOver hv.distinct, bind_at?_cons below key path]
        rw [at?_cons_map] at hat
        cases hu : get? key upper with
        | none => rw [Option.map_none, Option.none_or]
        | some u =>
            rw [hu, Option.bind_some] at hat
            rw [Option.map_some, Option.some_or, Option.bind_some]
            refine ih (hv.of_get? hu) _ hat ?_
            rintro ⟨above, w, hprefix, hne, habove, hw⟩
            exact hshown ⟨key :: above, w, by simpa using hprefix, by simpa using hne, by simp [hu, habove], hw⟩
      · exact absurd ⟨[], v, List.nil_prefix, by simp, at?_nil v, hmap⟩ hshown

/-- A place that the upper value hides has nothing. -/
theorem at?_laidOver_of_hides (hv : Nested v) (below : Option Value) (hhides : Hides path v) :
    at? path (laidOver below v) = none := by
  obtain ⟨above, w, ⟨later, rfl⟩, hne, habove, hw⟩ := hhides
  have hleaf : laidOver (below.bind (at? above)) w = w :=
    laidOver_of_ne_map (not_isMapping_iff.mp hw) _
  rw [at?_append, at?_laidOver_of_some hv below habove, Option.bind_some, hleaf]
  exact at?_of_not_isMapping hw fun hlater => hne (by simp [hlater])

/-! ## Keys of layers -/

/-- The keys of layered mappings are those of the lower one, then the new ones of the upper one. -/
theorem map_fst_overlay (lower : Entries) (hupper : Distinct upper) :
    (overlay lower upper).map Prod.fst =
      lower.map Prod.fst ++ (upper.filter fun e => (get? e.1 lower).isNone).map Prod.fst := by
  induction upper generalizing lower with
  | nil => simp
  | cons e rest ih =>
      obtain ⟨hnew, hrest⟩ := distinct_cons.mp hupper
      have hother : ∀ d ∈ rest, ¬ e.1.sameKey d.1 = true := fun d hd hsame => by
        rw [sameKey_comm] at hsame
        simpa [hsame] using get?_eq_none_iff.mp hnew d hd
      have hfilter (v : Value) : (rest.filter fun d => (get? d.1 (put e.1 v lower)).isNone) =
          rest.filter fun d => (get? d.1 lower).isNone := by
        refine List.filter_congr fun d hd => ?_
        rw [get?_put, if_neg (hother d hd)]
      rw [overlay, ih _ hrest, hfilter, map_fst_put]
      by_cases hknown : lower.any fun d => d.1.sameKey e.1
      · have hsome : ¬ (get? e.1 lower).isNone = true := by
          rw [Option.isNone_iff_eq_none, get?_eq_none_iff]
          intro hnone
          obtain ⟨d, hd, hsame⟩ := List.any_eq_true.mp hknown
          simpa [hsame] using hnone d hd
        rw [if_pos hknown, List.filter_cons, if_neg hsome]
      · have hnone : (get? e.1 lower).isNone = true := by
          rw [Option.isNone_iff_eq_none, get?_eq_none_iff]
          exact fun d hd => Bool.eq_false_iff.mpr fun hsame => hknown (List.any_eq_true.mpr ⟨d, hd, hsame⟩)
        rw [if_neg hknown, List.filter_cons, if_pos hnone, List.map_cons, List.append_assoc,
          List.singleton_append]

/-! ## Layers that change nothing -/

/-- A write of what is there changes nothing. -/
theorem put_of_get? {entries : Entries} (h : get? key entries = some v) : put key v entries = entries := by
  induction entries with
  | nil => cases h
  | cons e rest ih =>
      rw [get?] at h
      rw [put]
      by_cases hkey : e.1.sameKey key
      · rw [if_pos hkey] at h ⊢
        obtain rfl := Option.some.inj h
        rfl
      · rw [if_neg hkey] at h ⊢
        rw [ih h]

/-- A layer changes nothing if each of its values, laid over what is there, leaves this as it is. -/
theorem overlay_eq_self
    (h : ∀ e ∈ upper, ∃ w, get? e.1 lower = some w ∧ laidOver (some w) e.2 = w) :
    overlay lower upper = lower := by
  induction upper with
  | nil => exact overlay_nil lower
  | cons e rest ih =>
      obtain ⟨⟨w, hget, hw⟩, hrest⟩ := List.forall_mem_cons.mp h
      rw [overlay, hget, hw, put_of_get? hget, ih hrest]

/-- New entries come at the end. -/
theorem overlay_append {done : Entries} (h : Distinct (done ++ upper)) :
    overlay done upper = done ++ upper := by
  induction upper generalizing done with
  | nil => simp
  | cons e rest ih =>
      have hnew := get?_eq_none_of_distinct_append h
      rw [overlay, hnew, laidOver_none, put_of_get?_eq_none hnew, id, ih (by simpa using h),
        List.append_assoc, List.singleton_append]

/-- A layer over nothing is itself. -/
theorem overlay_nil_left (h : Distinct upper) : overlay [] upper = upper :=
  overlay_append (by simpa using h)

/-- A layer laid over twice is laid over once, if that holds for each of its values. -/
theorem overlay_overlay_of_forall (hupper : Nested (.map upper))
    (h : ∀ e ∈ upper, ∀ below, laidOver (some (laidOver below e.2)) e.2 = laidOver below e.2)
    (lower : Entries) : overlay (overlay lower upper) upper = overlay lower upper := by
  refine overlay_eq_self fun e he => ⟨laidOver (get? e.1 lower) e.2, ?_, h e he _⟩
  have hself := get?_of_mem hupper.distinct he (hupper.entries e he).1
  rw [get?_overlay lower hupper.distinct, hself, Option.map_some, Option.some_or]

mutual

/-- A value laid over twice is laid over once. -/
theorem laidOver_laidOver : ∀ {v : Value}, Nested v → ∀ below : Option Value,
    laidOver (some (laidOver below v)) v = laidOver below v
  | .map upper, h, below => by
      have hinner : ∀ lower, overlay (overlay lower upper) upper = overlay lower upper :=
        overlay_overlay_of_forall h (forall_laidOver_laidOver (by rw [Nested] at h; exact h.2))
      by_cases hbelow : ∃ lower, below = some (.map lower)
      · obtain ⟨lower, rfl⟩ := hbelow
        rw [laidOver, laidOver, hinner]
      · have hself := hinner []
        rw [overlay_nil_left h.distinct] at hself
        rw [laidOver_map_of_ne_map (not_exists.mp hbelow), laidOver, hself]
  | .list _, _, _ | .pair .., _, _ | .cyclic .., _, _ | .null, _, _ | .bool _, _, _ | .int _, _, _
  | .float _, _, _ | .text _, _, _ | .broken .., _, _ | .bytes _, _, _ | .date .., _, _ | .moment _, _, _
  | .set _, _, _ | .again _, _, _ => rfl

theorem forall_laidOver_laidOver : ∀ {entries : Entries}, NestedEntries entries →
    ∀ e ∈ entries, ∀ below : Option Value, laidOver (some (laidOver below e.2)) e.2 = laidOver below e.2
  | [], _ => nofun
  | (key, v) :: rest, h => by
      rw [NestedEntries] at h
      exact List.forall_mem_cons.mpr ⟨laidOver_laidOver h.2.1, forall_laidOver_laidOver h.2.2⟩

end

/-! ## All laws together -/

/-- **Nested mappings laid over each other.** At a place the merged mappings have the upper value if that is
no mapping, nothing if such a value stands above the place in the upper mappings, the mapping of the upper
ones where the lower ones have no mapping, both mappings laid over each other where both have one, and what
the lower ones have where the upper ones have nothing and hide nothing. No entries are neutral on both sides,
mappings laid over themselves stay as they are, a layer counts once however often it is laid over, and the
keys are those of the lower mapping followed by the new ones of the upper one. All this is what a merge of the
two gives, unless some mapping is inside itself. -/
theorem overlay_spec {base override : Entries} (hbase : Nested (.map base))
    (hoverride : Nested (.map override)) :
    (∀ path : List Value, path ≠ [] →
      (∀ v, at? path (.map override) = some v → ¬ IsMapping v →
        at? path (.map (overlay base override)) = some v) ∧
      (∀ above v, above <+: path → above ≠ path → at? above (.map override) = some v → ¬ IsMapping v →
        at? path (.map (overlay base override)) = none) ∧
      (∀ upper, at? path (.map override) = some (.map upper) →
        (∀ v, at? path (.map base) = some v → ¬ IsMapping v) →
        at? path (.map (overlay base override)) = some (.map upper)) ∧
      (∀ upper lower, at? path (.map override) = some (.map upper) →
        at? path (.map base) = some (.map lower) →
        at? path (.map (overlay base override)) = some (.map (overlay lower upper))) ∧
      (at? path (.map override) = none →
        (∀ above v, above <+: path → above ≠ path → at? above (.map override) = some v → IsMapping v) →
        at? path (.map (overlay base override)) = at? path (.map base))) ∧
    overlay [] override = override ∧ overlay base [] = base ∧ overlay base base = base ∧
    overlay (overlay base override) override = overlay base override ∧
    (overlay base override).map Prod.fst =
      base.map Prod.fst ++ (override.filter fun e => (get? e.1 base).isNone).map Prod.fst ∧
    (Straight (.map base) → Straight (.map override) → merge base override = .ok (overlay base override)) := by
  have hmerged : Value.map (overlay base override) = laidOver (some (.map base)) (.map override) := by
    rw [laidOver]
  have htwice : ∀ {upper : Entries}, Nested (.map upper) → ∀ lower,
      overlay (overlay lower upper) upper = overlay lower upper := fun hupper lower => by
    rw [Nested] at hupper
    exact overlay_overlay_of_forall (by rwa [Nested]) (forall_laidOver_laidOver hupper.2) lower
  refine ⟨fun path _ => ⟨?_, ?_, ?_, ?_, ?_⟩, overlay_nil_left hoverride.distinct, overlay_nil base, ?_,
    htwice hoverride base, map_fst_overlay base hoverride.distinct, merge_eq_overlay⟩
  · intro v hat hv
    rw [hmerged, at?_laidOver_of_some hoverride _ hat, laidOver_of_ne_map (not_isMapping_iff.mp hv)]
  · intro above v hprefix hne hat hv
    rw [hmerged, at?_laidOver_of_hides hoverride _ ⟨above, v, hprefix, hne, hat, hv⟩]
  · intro upper hat hnone
    rw [hmerged, at?_laidOver_of_some hoverride _ hat, laidOver_map_of_ne_map]
    exact fun lower h => hnone _ h ⟨lower, rfl⟩
  · intro upper lower hat hlower
    rw [hmerged, at?_laidOver_of_some hoverride _ hat, Option.bind_some, hlower, laidOver]
  · intro hat hshown
    rw [hmerged, at?_laidOver_of_none hoverride _ hat, Option.bind_some]
    rintro ⟨above, v, hprefix, hne, habove, hv⟩
    exact hv (hshown above v hprefix hne habove)
  · have hself := htwice hbase []
    rwa [overlay_nil_left hbase.distinct] at hself

theorem overlay_spec_sections :
    let base : Entries :=
      [(.text "logging", .map [(.text "level", .text "INFO"), (.text "outputs", .map [(.text "first", .int 1)]),
        (.text "colour", .bool true)])]
    let override : Entries :=
      [(.text "probe", .int 2),
        (.text "logging", .map [(.text "level", .map [(.text "root", .text "DEBUG")]), (.text "outputs", .null)])]
    let merged : Value := .map (overlay base override)
    Nested (.map base) ∧ Nested (.map override) ∧
      at? [.text "logging", .text "outputs"] merged = some .null ∧
      at? [.text "logging", .text "outputs", .text "first"] merged = none ∧
      at? [.text "logging", .text "level"] merged = some (.map [(.text "root", .text "DEBUG")]) ∧
      at? [.text "logging", .text "colour"] merged = some (.bool true) ∧
      overlay (overlay base override) override = overlay base override ∧
      (overlay base override).map Prod.fst = [.text "logging", .text "probe"] ∧
      merge base override = .ok (overlay base override) := by
  intro base override merged
  have hbase : Nested (.map base) := by simp [base, Nested, NestedEntries, Distinct]
  have hoverride : Nested (.map override) := by simp [override, Nested, NestedEntries, Distinct]
  have hnull : ¬ IsMapping .null := not_isMapping_iff.mpr (by simp)
  have houtputs : at? [.text "logging", .text "outputs"] (.map override) = some .null := by
    simp [override, get?]
  obtain ⟨hplaces, -, -, -, htwice, hkeys, hmerge⟩ := overlay_spec hbase hoverride
  refine ⟨hbase, hoverride, ?_, ?_, ?_, ?_, htwice, ?_, hmerge ?_ ?_⟩
  · exact (hplaces _ (by simp)).1 _ houtputs hnull
  · exact (hplaces _ (by simp)).2.1 _ _ (by simp) (by simp) houtputs hnull
  · refine (hplaces _ (by simp)).2.2.1 _ (by simp [override, get?]) fun v hv => ?_
    obtain rfl : v = .text "INFO" := by simpa [base, get?] using hv.symm
    exact not_isMapping_iff.mpr (by simp)
  · refine ((hplaces _ (by simp)).2.2.2.2 (by simp [override, get?]) ?_).trans (by simp [base, get?])
    intro above v hprefix hne habove
    rcases above with _ | ⟨first, _ | ⟨second, rest⟩⟩
    · exact ⟨override, by simpa using habove.symm⟩
    · obtain rfl : first = .text "logging" := by simpa using hprefix
      exact ⟨_, by simpa [override, get?] using habove.symm⟩
    · exact absurd (by simpa using hprefix) hne
  · rw [hkeys]
    simp [base, override, get?]
  · simp [base, Straight, StraightEntries]
  · simp [override, Straight, StraightEntries]

end SolutionSurvey.Value
