import SolutionSurvey.Config.Environment
import SolutionSurvey.Proofs.Value.Merging

/-!
# Keys of sections

A mapping of sections holds a value for a key of a section if its section does. Where one such mapping is
merged into another one, a key has what the upper one holds for it, or else what the lower one does, unless
mappings stand at the key.

## Main definitions

* `Leaf` — the keys of all sections.
* `Value.setting?` — what a mapping of sections holds for a key.
* `Value.Sectioned` — mappings of sections in which no key is repeated.
* `Value.setting?_merge` — what merged mappings of sections hold for a key.
-/

namespace SolutionSurvey

/-- The keys of all sections. -/
inductive Leaf where
  | level
  | outputs
  | sourceExtensions
  | excludedDirs
  | encoding
  | identifierFields
  deriving Repr, DecidableEq

namespace Leaf

/-- The section of a key. -/
def sectionName : Leaf → String
  | .level | .outputs => "logging"
  | .sourceExtensions | .excludedDirs | .encoding => "workspace"
  | .identifierFields => "probe"

/-- The name of a key in its section. -/
def key : Leaf → String
  | .level => "level"
  | .outputs => "outputs"
  | .sourceExtensions => "source_extensions"
  | .excludedDirs => "excluded_dirs"
  | .encoding => "encoding"
  | .identifierFields => "identifier_fields"

/-- All keys. -/
def all : List Leaf :=
  [.level, .outputs, .sourceExtensions, .excludedDirs, .encoding, .identifierFields]

theorem mem_all (l : Leaf) : l ∈ all := by
  cases l <;> decide

/-- A section has no two keys of one name. -/
theorem key_inj {l m : Leaf} (hsection : l.sectionName = m.sectionName) (h : l.key = m.key) : l = m := by
  have hall : ∀ l ∈ all, ∀ m ∈ all, l.sectionName = m.sectionName → l.key = m.key → l = m := by decide
  exact hall l l.mem_all m m.mem_all hsection h

theorem section_mem (l : Leaf) : ∃ s ∈ sections, s.1 = l.sectionName := by
  cases l <;> decide

end Leaf

namespace Value

/-! ## Values that are no mappings -/

/-- No mapping stands at a place. -/
def NoMap (v : Option Value) : Prop :=
  ∀ entries, v ≠ some (.map entries)

theorem NoMap.or_left {v w : Option Value} (h : NoMap (v.or w)) : NoMap v := by
  rintro entries rfl
  exact h entries rfl

variable {depth : ℕ} {lower upper whole : Entries}

/-- Where no mapping stands at a key of merged mappings, the upper value hides the lower one. -/
theorem get?_mergeWithin_of_noMap (hupper : Distinct upper) (h : mergeWithin depth lower upper = .ok whole)
    {key : Value} (hmap : NoMap (get? key whole)) :
    get? key whole = (get? key upper).or (get? key lower) := by
  cases depth with
  | zero => cases h
  | succ depth =>
      rcases get?_mergeWithin hupper h key with ⟨hu, hwhole⟩ | ⟨v, w, hu, hw, hwhole⟩
      · rw [hu, hwhole, Option.none_or]
      · rw [hwhole, hu, Option.some_or]
        rcases layOver_cases (mergeWithin depth) (get? key lower) v with
          ⟨_, ls, us, -, -, -, hmerge⟩ | ⟨-, hmerge⟩
        · rw [hmerge] at hw
          obtain ⟨es, -, rfl⟩ := map_eq_ok.mp hw
          exact absurd hwhole (hmap es)
        · rw [hmerge] at hw
          rw [Except.ok.inj hw]

/-! ## Mappings of sections -/

/-- What a mapping of sections holds for a key. -/
def setting? (l : Leaf) (entries : Entries) : Option Value :=
  (get? (.text l.sectionName) entries).bind fun v => v.opened.field? l.key

/-- No key of a mapping is repeated, and its sections are mappings without repeated keys. -/
structure Sectioned (entries : Entries) : Prop where
  distinct : Distinct entries
  inner : ∀ s ∈ sections, ∀ v, get? (.text s.1) entries = some v → ∃ es, v.opened = .map es ∧ Distinct es

/-- A section of merged mappings is that of one of them, or that of the upper merged into that of the lower
one. -/
theorem Sectioned.get?_mergeWithin (hlower : Sectioned lower) (hupper : Sectioned upper)
    (h : mergeWithin (depth + 1) lower upper = .ok whole) {s : String × List (String × Shape)}
    (hs : s ∈ sections) :
    (get? (.text s.1) upper = none ∧ get? (.text s.1) whole = get? (.text s.1) lower) ∨
      ∃ u us, get? (.text s.1) upper = some u ∧ u.opened = .map us ∧ Distinct us ∧
        ((get? (.text s.1) lower = none ∧ get? (.text s.1) whole = some u) ∨
          ∃ v ls es, get? (.text s.1) lower = some v ∧ v.opened = .map ls ∧ Distinct ls ∧
            mergeWithin depth ls us = .ok es ∧ get? (.text s.1) whole = some (.map es)) := by
  rcases Value.get?_mergeWithin hupper.distinct h (.text s.1) with hnone | ⟨u, w, hu, hw, hwhole⟩
  · exact .inl hnone
  · obtain ⟨us, hus, hdistinct⟩ := hupper.inner s hs u hu
    refine .inr ⟨u, us, hu, hus, hdistinct, ?_⟩
    rcases layOver_cases (mergeWithin depth) (get? (.text s.1) lower) u with
      ⟨v, ls, us', hv, hls, hus', hmerge⟩ | ⟨hnot, hmerge⟩
    · obtain rfl : us = us' := Value.map.inj (hus.symm.trans hus')
      rw [hmerge] at hw
      obtain ⟨es, hes, rfl⟩ := map_eq_ok.mp hw
      obtain ⟨ls', hls', hdistinct'⟩ := hlower.inner s hs v hv
      obtain rfl : ls = ls' := Value.map.inj (hls.symm.trans hls')
      exact .inr ⟨v, ls, es, hv, hls, hdistinct', hes, hwhole⟩
    · rw [hmerge] at hw
      obtain rfl := Except.ok.inj hw
      cases hl : get? (.text s.1) lower with
      | none => exact .inl ⟨rfl, hwhole⟩
      | some v =>
          obtain ⟨ls, hls, -⟩ := hlower.inner s hs v hl
          exact absurd hus (hnot v ls us hl hls)

theorem Sectioned.merge (hlower : Sectioned lower) (hupper : Sectioned upper)
    (h : merge lower upper = .ok whole) : Sectioned whole := by
  refine ⟨distinct_mergeWithin hlower.distinct h, fun s hs v hv => ?_⟩
  rcases hlower.get?_mergeWithin hupper h hs with
    ⟨-, hwhole⟩ | ⟨u, us, -, hus, hdistinct, ⟨-, hwhole⟩ | ⟨w, ls, es, -, -, hdistinct, hes, hwhole⟩⟩
  · exact hlower.inner s hs v (hwhole ▸ hv)
  · obtain rfl := Option.some.inj (hwhole.symm.trans hv)
    exact ⟨us, hus, hdistinct⟩
  · obtain rfl := Option.some.inj (hwhole.symm.trans hv)
    exact ⟨es, rfl, distinct_mergeWithin hdistinct hes⟩

/-- **Where no mapping stands at a key of merged mappings of sections**, they hold for it what the upper one
does, or else what the lower one does. -/
theorem setting?_merge (hlower : Sectioned lower) (hupper : Sectioned upper) (h : merge lower upper = .ok whole)
    {l : Leaf} (hmap : NoMap (setting? l whole)) :
    setting? l whole = (setting? l upper).or (setting? l lower) := by
  obtain ⟨s, hs, hname⟩ := l.section_mem
  simp only [setting?, ← hname] at hmap ⊢
  rcases hlower.get?_mergeWithin hupper h hs with
    ⟨hu, hwhole⟩ | ⟨u, us, hu, hus, hdistinct, ⟨hl, hwhole⟩ | ⟨w, ls, es, hl, hls, -, hes, hwhole⟩⟩
  · simp [hu, hwhole]
  · simp [hu, hl, hwhole]
  · simp only [hwhole, hu, hl, Option.bind_some, hus, hls, opened_map, field?] at hmap ⊢
    exact get?_mergeWithin_of_noMap hdistinct hes hmap

end Value

end SolutionSurvey
