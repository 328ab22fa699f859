import SolutionSurvey.Proofs.Config.Variables

/-!
# Variables are not inside themselves

A configuration file may hold a mapping inside itself, but JSON cannot write one, and putting values in the
places that the names of variables lead to makes none. So what the variables say can be merged with anything.

## Main definitions

* `Json.straight_of_read?` — what JSON writes is not inside itself.
* `Environment.straight_entries` — and neither is what the variables say.
-/

namespace SolutionSurvey

open Value (Straight straight_map)

/-! ## JSON -/

namespace Json

theorem Numeral.straight_of_value? {n : Numeral} {v : Value} (h : n.value? = some v) : Straight v := by
  rw [value?] at h
  split at h
  · split at h
    · cases h
    · cases h
      trivial
  · obtain ⟨x, -, rfl⟩ := Option.map_eq_some_iff.mp h
    trivial

theorem straight_of_readScalar? {cs rest : List Char} {v : Value} (h : readScalar? cs = some (v, rest)) :
    Straight v := by
  have hword {w : String} {u : Value}
      (h : (if w.toList.isPrefixOf cs then some (u, cs.drop w.length) else none) = some (v, rest))
      (hu : Straight u) : Straight v := by
    split at h
    · cases h
      exact hu
    · cases h
  simp only [readScalar?, Option.orElse_eq_orElse, Option.orElse_eq_or, Option.or_eq_some_iff] at h
  rcases h with h | ⟨-, h | ⟨-, h | ⟨-, h | ⟨-, h | ⟨-, h | ⟨-, h⟩⟩⟩⟩⟩⟩
  · exact hword h trivial
  · exact hword h trivial
  · exact hword h trivial
  · exact hword h trivial
  · exact hword h trivial
  · exact hword h trivial
  · obtain ⟨n, -, h⟩ := Option.bind_eq_some_iff.mp h
    obtain ⟨u, hu, h⟩ := Option.bind_eq_some_iff.mp h
    cases h
    exact n.straight_of_value? hu

/-- Lists are read as lists. -/
theorem straight_of_readItems {fuel : ℕ} {done : List Value} {signs rest : List Sign} {v : Value}
    (h : readItems fuel done signs = some (v, rest)) : Straight v := by
  induction fuel generalizing done signs with
  | zero => cases h
  | succ fuel ih =>
      rw [readItems] at h
      split at h
      · cases h
      · split at h
        · exact ih h
        · cases h
          trivial
        · cases h

/-- Values are straight, and so are mappings if the entries that come first in them are. -/
theorem straight_of_read (fuel : ℕ) :
    (∀ {signs rest : List Sign} {v : Value}, readValue fuel signs = some (v, rest) → Straight v) ∧
      ∀ {done : Entries} {signs rest : List Sign} {v : Value}, (∀ e ∈ done, Straight e.2) →
        readEntries fuel done signs = some (v, rest) → Straight v := by
  induction fuel with
  | zero => exact ⟨nofun, fun _ => nofun⟩
  | succ fuel ih =>
      obtain ⟨ihvalue, ihentries⟩ := ih
      refine ⟨fun h => ?_, fun hdone h => ?_⟩
      · rw [readValue] at h
        split at h
        · obtain ⟨r, -, hr⟩ := Option.map_eq_some_iff.mp h
          cases hr
          exact Value.straight_ofWording r.1
        · split at h
          · cases h
            trivial
          · exact straight_of_readItems h
        · split at h
          · cases h
            exact straight_map.mpr (List.forall_mem_nil _)
          · exact ihentries (List.forall_mem_nil _) h
        · obtain ⟨r, hr, heq⟩ := Option.map_eq_some_iff.mp h
          cases heq
          exact straight_of_readScalar? hr
      · rw [readEntries] at h
        split at h
        · split at h
          · cases h
          · split at h
            · split at h
              · cases h
              · next v rest hv =>
                split at h
                · exact ihentries (List.forall_mem_cons.mpr ⟨ihvalue hv, hdone⟩) h
                · cases h
                  refine Value.straight_ofWrites fun e he => ?_
                  rcases List.mem_cons.mp (List.mem_reverse.mp he) with rfl | he
                  · exact ihvalue hv
                  · exact hdone e he
                · cases h
            · cases h
        · cases h

/-- **What JSON writes is not inside itself.** -/
theorem straight_of_read? {w : Wording} {v : Value} (h : read? w = some v) : Straight v := by
  rw [read?] at h
  split at h
  · next v' rest hread =>
    split at h
    · cases h
      exact (straight_of_read _).1 hread
    · cases h
  · cases h

end Json

/-! ## Variables -/

namespace Environment

theorem straight_of_valueOf {shape : Option Shape} {text : Wording} {v : Value}
    (h : valueOf shape text = some v) : Straight v := by
  rw [valueOf] at h
  split at h
  · exact Json.straight_of_read? h
  · cases h
    exact Value.straight_ofWording text

/-- Entries stay straight when a straight value is put into them. -/
theorem straight_putAt {value : Value} (hvalue : Straight value) (parts : List String) {entries : Entries}
    (h : Straight (.map entries)) : Straight (.map (putAt value parts entries)) := by
  induction parts generalizing entries with
  | nil => exact h
  | cons key rest ih =>
      cases rest with
      | nil => exact h.put hvalue _
      | cons next rest =>
          rw [putAt]
          · split
            · exact h.put (ih (straight_map.mpr (List.forall_mem_nil _))) _
            · next below hbelow => exact h.put (ih (h.of_get? hbelow)) _
            · exact h
          · exact nofun

theorem straight_keys {env : Environment} {name : String} {fields : List (String × Shape)} {ks : Entries}
    (h : keys env name fields = .ok ks) : Straight (.map ks) := by
  suffices ∀ done : Entries, Straight (.map done) → env.foldlM (addKey name fields) done = .ok ks →
      Straight (.map ks) from this [] (straight_map.mpr (List.forall_mem_nil _)) (keys_eq env name fields ▸ h)
  clear h
  induction env with
  | nil =>
      intro done hdone h
      cases h
      exact hdone
  | cons e rest ih =>
      intro done hdone h
      obtain ⟨next, hnext, hrest⟩ := bind_eq_ok.mp h
      refine ih next ?_ hrest
      rw [addKey] at hnext
      split at hnext
      · dsimp only at hnext
        split at hnext
        · next v hv =>
          cases hnext
          exact straight_putAt (straight_of_valueOf hv) _ hdone
        · cases hnext
      · cases hnext
        exact hdone

/-- Spelling keys in another way keeps entries straight. -/
theorem straight_respell {fields : List (String × Shape)} {entries : Entries} (h : Straight (.map entries)) :
    Straight (.map (respell fields entries)) := by
  refine Value.straight_ofWrites (List.forall_mem_map.mpr fun e he => ?_)
  split <;> exact straight_map.mp h e he

theorem straight_section? {env : Environment} {name : String} {fields : List (String × Shape)} {v : Value}
    (h : section? env name fields = .ok (some v)) : Straight v := by
  rw [section?] at h
  split at h
  · obtain ⟨ks, hks, h⟩ := bind_eq_ok.mp h
    split at h
    · cases h
    · cases h
      exact straight_respell (straight_keys hks)
  · split at h
    · cases h
    · cases h
    · next entries hread =>
      obtain ⟨ks, hks, h⟩ := bind_eq_ok.mp h
      cases h
      have hks := straight_keys hks
      rw [Straight] at hks
      exact straight_respell (Straight.overlay hks (Json.straight_of_read? hread))
    · next u _ _ hread =>
      cases h
      exact Json.straight_of_read? hread

/-- **What the variables say is not inside itself.** -/
theorem straight_entries {env : Environment} {es : Entries} (h : env.entries = .ok es) :
    Straight (.map es) := by
  obtain ⟨found, hfound, h⟩ := bind_eq_ok.mp h
  cases h
  obtain ⟨hdistinct, hkeys, hsay⟩ := get?_found (by decide) hfound
  refine straight_map.mpr fun e he => ?_
  obtain ⟨s, hs, hkey⟩ := hkeys e he
  have hget := Value.get?_of_mem hdistinct he (by simp [hkey])
  rw [hkey] at hget
  exact straight_section? (hget ▸ hsay s hs)

end Environment

end SolutionSurvey
