import SolutionSurvey.Package.Version
import SolutionSurvey.Proofs.Outcome
import SolutionSurvey.Proofs.Package.Span
import SolutionSurvey.Proofs.Text.Trim
import Mathlib.Data.List.Infix
import Mathlib.Data.Nat.Digits.Defs

/-!
# Reading and writing versions

A text is read as a version exactly if it is two to four groups of digits joined by points, with or without blanks
around them, and each group writes a number within range. Every version that is read could have been made by the
constructor, and every version that the constructor makes of a major and a minor component is read back from its
own text.

## Main definitions

* `Version.decimal` — the number that digits write.
* `Version.IsGrouped`, `Version.IsOverlong` — texts of groups, and those with a group that cannot be read.
* `Version.IsNumeric` — the texts that write a version.
* `Version.RunsWithin` — texts without long runs of digits.
* `Version.Proper` — what the constructor makes of a major and a minor component.
* `Version.tryParse_isOk_iff` — which versions can be read.
* `Version.tryParse_eq_some_iff` — what is read from a text.
* `Version.tryParse_toText` — a version is read back from its text.
* `Version.tryParse_spec` — reading and writing together.
-/

namespace SolutionSurvey

namespace Version

variable {v w : Version} {text : String} {cs : List Char} {gs hs : List (List Char)}

/-! ## Groups of digits -/

/-- The number that digits write, most significant first. -/
def decimal (g : List Char) : Nat :=
  Nat.ofDigits 10 (g.reverse.map fun c => c.toNat - '0'.toNat)

theorem readDigits_eq_decimal (g : List Char) : readDigits g = decimal g := by
  induction g using List.reverseRecOn with
  | nil => rfl
  | append_singleton g c ih =>
      have hlast : readDigits (g ++ [c]) = 10 * readDigits g + (c.toNat - 48) := by
        simp [readDigits]
      have hlast' : decimal (g ++ [c]) = 10 * decimal g + (c.toNat - '0'.toNat) := by
        simp [decimal, Nat.ofDigits_cons, Nat.add_comm]
      rw [hlast, hlast', ih]
      rfl

/-- Two to four groups of digits, joined by points. -/
structure IsGrouped (cs : List Char) (gs : List (List Char)) : Prop where
  text : cs = ['.'].intercalate gs
  digits : ∀ g ∈ gs, g ≠ [] ∧ ∀ c ∈ g, c.isDigit
  two_le : 2 ≤ gs.length
  le_four : gs.length ≤ 4

/-- A text is two to four groups of digits, one of which is too long to be read as a number. -/
def IsOverlong (text : String) : Prop :=
  ∃ gs, IsGrouped (Text.trimChars text.toList) gs ∧ ∃ g ∈ gs, digitLimit < g.length

theorem groups?_eq_some_iff {cs : List Char} {gs : List (List Char)} :
    groups? cs = some gs ↔ IsGrouped cs gs := by
  have hdigits : (∀ g ∈ gs, isDigits g = true) ↔ ∀ g ∈ gs, g ≠ [] ∧ ∀ c ∈ g, c.isDigit := by
    simp [isDigits]
  constructor
  · intro h
    simp only [groups?, Option.ite_none_right_eq_some, Bool.and_eq_true, decide_eq_true_eq,
      Option.some.injEq, List.all_eq_true] at h
    obtain ⟨⟨⟨hall, htwo⟩, hfour⟩, rfl⟩ := h
    exact ⟨(List.intercalate_splitOn '.').symm, hdigits.mp hall, htwo, hfour⟩
  · rintro ⟨rfl, hall, htwo, hfour⟩
    have hsplit : (['.'].intercalate gs).splitOn '.' = gs := by
      refine List.splitOn_intercalate '.' (fun g hg hpoint => ?_) fun hnil => by simp [hnil] at htwo
      exact absurd ((hall g hg).2 '.' hpoint) (by decide)
    have hread := hdigits.mpr hall
    simpa [groups?, hsplit, htwo, hfour] using hread

/-- A text has one way to be groups. -/
theorem IsGrouped.unique (hg : IsGrouped cs gs) (hh : IsGrouped cs hs) : gs = hs :=
  Option.some.inj ((groups?_eq_some_iff.mpr hg).symm.trans (groups?_eq_some_iff.mpr hh))

theorem IsGrouped.ne_nil (h : IsGrouped cs gs) : cs ≠ [] := by
  rw [h.text]
  cases gs with
  | nil => exact absurd h.two_le (by simp)
  | cons g gs => simp [Span.intercalate_cons, (h.digits g List.mem_cons_self).1]

theorem IsGrouped.not_blank (h : IsGrouped cs gs) : ∀ c ∈ cs, Text.isBlank c = false := by
  intro c hc
  rw [h.text] at hc
  rcases Span.digit_or_point (fun g hg => (h.digits g hg).2) c hc with hdigit | rfl
  · exact Text.isBlank_of_isDigit hdigit
  · decide

/-! ## What is read -/

/-- **A version can be read unless one of its groups is too long.** -/
theorem tryParse_isOk_iff {text : String} : (∃ v, tryParse text = .ok v) ↔ ¬ IsOverlong text := by
  simp only [tryParse, IsOverlong, ← groups?_eq_some_iff]
  cases groups? (Text.trimChars text.toList) with
  | none => simp
  | some gs =>
      dsimp only
      cases hfind : gs.find? fun g => decide (digitLimit < g.length) with
      | none =>
          have hnone := List.find?_eq_none.mp hfind
          refine iff_of_true ?_ ?_
          · dsimp only
            split <;> exact ⟨_, rfl⟩
          · rintro ⟨_, hgs, g, hg, hlong⟩
            cases hgs
            exact hnone g hg (by simpa using hlong)
      | some g =>
          have hlong := List.find?_some hfind
          refine iff_of_false (fun ⟨v, hv⟩ => nomatch hv) fun hnot => hnot ⟨gs, rfl, g, ?_⟩
          exact ⟨List.mem_of_find?_eq_some hfind, by simpa using hlong⟩

theorem tryParse_of_not_isGrouped (h : ∀ gs, ¬ IsGrouped (Text.trimChars text.toList) gs) :
    tryParse text = .ok none := by
  have hnone : groups? (Text.trimChars text.toList) = none := by
    rw [Option.eq_none_iff_forall_ne_some]
    exact fun gs hgs => h gs (groups?_eq_some_iff.mp hgs)
  rw [tryParse, hnone]

/-- Groups that are short enough to be read give the version with their numbers, if all of these are within
range. -/
theorem tryParse_of_isGrouped (h : IsGrouped (Text.trimChars text.toList) gs)
    (hshort : ∀ g ∈ gs, g.length ≤ digitLimit) :
    tryParse text =
      .ok (if ∀ g ∈ gs, decimal g ≤ componentMax then ofComponents? (gs.map decimal) else none) := by
  have hfind : gs.find? (fun g => decide (digitLimit < g.length)) = none := by
    rw [List.find?_eq_none]
    intro g hg
    simpa using hshort g hg
  have hmap : gs.map readDigits = gs.map decimal :=
    List.map_congr_left fun g _ => readDigits_eq_decimal g
  have hsmall : (gs.map decimal).all (· ≤ componentMax) = decide (∀ g ∈ gs, decimal g ≤ componentMax) := by
    rw [Bool.eq_iff_iff]
    simp
  simp only [tryParse, groups?_eq_some_iff.mpr h, hfind, hmap, hsmall, decide_eq_true_eq]
  split <;> rfl

/-! ## What the constructor makes -/

theorem mem_components {n : Nat} :
    n ∈ v.components ↔ n ∈ v.major ∨ n ∈ v.minor ∨ n ∈ v.build ∨ n ∈ v.revision := by
  simp [components, eq_comm]

/-- A component passes its check exactly if it is absent or a number within range. -/
theorem checkComponent_eq_ok {name : String} {given : Option Int} {kept : Option Nat} :
    checkComponent name given = .ok kept ↔
      given = kept.map Int.ofNat ∧ ∀ n ∈ kept, n ≤ componentMax := by
  cases given with
  | none => cases kept <;> simp [checkComponent]
  | some z =>
      rw [checkComponent]
      cases kept with
      | none => split <;> simp
      | some n =>
          simp only [Option.map_some, Option.some.injEq, Option.mem_some_iff, forall_eq']
          split
          · next hrange =>
              rw [Except.ok.injEq, Option.some.injEq, Int.ofNat_eq_natCast]
              omega
          · next hrange =>
              refine iff_of_false (by simp) ?_
              rintro ⟨rfl, hle⟩
              exact hrange ⟨Int.natCast_nonneg n, Int.ofNat_le.mpr hle⟩

/-- The constructor makes the version with the given components, if all of them are within range and only a build
is followed by a revision. -/
theorem make_eq_ok {major minor build revision : Option Int} :
    make major minor build revision = .ok v ↔
      (v.revision.isSome → v.build.isSome) ∧ (∀ n ∈ v.components, n ≤ componentMax) ∧
        major = v.major.map Int.ofNat ∧ minor = v.minor.map Int.ofNat ∧
        build = v.build.map Int.ofNat ∧ revision = v.revision.map Int.ofNat := by
  have hguard : (revision.isSome && build.isNone) = true ↔ ¬ (revision.isSome → build.isSome) := by
    cases build <;> cases revision <;> simp
  have hall : (∀ n ∈ v.components, n ≤ componentMax) ↔
      (∀ n ∈ v.major, n ≤ componentMax) ∧ (∀ n ∈ v.minor, n ≤ componentMax) ∧
        (∀ n ∈ v.build, n ≤ componentMax) ∧ ∀ n ∈ v.revision, n ≤ componentMax := by
    simp only [mem_components, or_imp, forall_and]
  rw [make, hall]
  split
  · next hlone =>
      refine iff_of_false nofun ?_
      rintro ⟨hpaired, -, -, -, rfl, rfl⟩
      exact hguard.mp hlone (by simpa using hpaired)
  · next hpaired =>
      rw [hguard, not_not] at hpaired
      simp only [bind_eq_ok, checkComponent_eq_ok]
      constructor
      · rintro ⟨a, ⟨rfl, ha⟩, b, ⟨rfl, hb⟩, c, ⟨rfl, hc⟩, d, ⟨rfl, hd⟩, hv⟩
        cases hv
        exact ⟨by simpa using hpaired, ⟨ha, hb, hc, hd⟩, rfl, rfl, rfl, rfl⟩
      · rintro ⟨-, ⟨ha, hb, hc, hd⟩, rfl, rfl, rfl, rfl⟩
        exact ⟨_, ⟨rfl, ha⟩, _, ⟨rfl, hb⟩, _, ⟨rfl, hc⟩, _, ⟨rfl, hd⟩, rfl⟩

/-- A version that the constructor makes of a major and a minor component. -/
def Proper (v : Version) : Prop :=
  ∃ (major minor : Int) (build revision : Option Int),
    make (some major) (some minor) build revision = .ok v

/-- Proper versions have a major and a minor component, all their components are within range, and only a build
is followed by a revision. -/
theorem proper_iff : v.Proper ↔
    (v.major.isSome ∧ v.minor.isSome) ∧ (v.revision.isSome → v.build.isSome) ∧
      ∀ n ∈ v.components, n ≤ componentMax := by
  simp only [Proper, make_eq_ok]
  constructor
  · rintro ⟨a, b, c, d, hpaired, hsmall, ha, hb, -⟩
    refine ⟨⟨?_, ?_⟩, hpaired, hsmall⟩
    · simpa using congrArg Option.isSome ha.symm
    · simpa using congrArg Option.isSome hb.symm
  · rintro ⟨⟨hmajor, hminor⟩, hpaired, hsmall⟩
    obtain ⟨a, ha⟩ := Option.isSome_iff_exists.mp hmajor
    obtain ⟨b, hb⟩ := Option.isSome_iff_exists.mp hminor
    refine ⟨a, b, _, _, hpaired, hsmall, ?_, ?_, rfl, rfl⟩
    · rw [ha]
      rfl
    · rw [hb]
      rfl

theorem ofComponents?_of_length {ns : List Nat} (htwo : 2 ≤ ns.length) (hfour : ns.length ≤ 4) :
    ∃ v, ofComponents? ns = some v ∧ v.components = ns := by
  match ns with
  | [a, b] => exact ⟨_, rfl, rfl⟩
  | [a, b, c] => exact ⟨_, rfl, rfl⟩
  | [a, b, c, d] => exact ⟨_, rfl, rfl⟩

/-- Groups write the components of a version. -/
theorem IsGrouped.exists_version (h : IsGrouped cs gs) : ∃ v, ofComponents? (gs.map decimal) = some v := by
  have htwo : 2 ≤ (gs.map decimal).length := by simpa using h.two_le
  have hfour : (gs.map decimal).length ≤ 4 := by simpa using h.le_four
  obtain ⟨v, hv, -⟩ := ofComponents?_of_length htwo hfour
  exact ⟨v, hv⟩

/-- Numbers within range are the components of a proper version, if there are two to four of them. -/
theorem proper_of_ofComponents? {ns : List Nat} (h : ofComponents? ns = some v)
    (hsmall : ∀ n ∈ ns, n ≤ componentMax) : v.Proper ∧ v.components = ns := by
  unfold ofComponents? at h
  split at h <;> cases h <;> exact ⟨proper_iff.mpr ⟨⟨rfl, rfl⟩, by simp, hsmall⟩, rfl⟩

/-- A proper version is known by its components. -/
theorem ofComponents?_components (h : v.Proper) : ofComponents? v.components = some v := by
  obtain ⟨⟨hmajor, hminor⟩, hpaired, -⟩ := proper_iff.mp h
  obtain ⟨major, minor, build, revision⟩ := v
  obtain ⟨a, rfl⟩ := Option.isSome_iff_exists.mp hmajor
  obtain ⟨b, rfl⟩ := Option.isSome_iff_exists.mp hminor
  cases build with
  | none =>
      cases revision with
      | none => rfl
      | some d => exact absurd (hpaired rfl) (by simp)
  | some c => cases revision <;> rfl

theorem length_components (h : v.Proper) : 2 ≤ v.components.length ∧ v.components.length ≤ 4 := by
  have hread := ofComponents?_components h
  unfold ofComponents? at hread
  split at hread
  · next hns => simp [hns]
  · next hns => simp [hns]
  · next hns => simp [hns]
  · cases hread

/-! ## Texts of versions -/

/-- A text writes a version: without the blanks around it, it is two to four groups of digits joined by points,
and each of them writes a number within range. -/
structure IsNumeric (text : String) (gs : List (List Char)) : Prop where
  grouped : IsGrouped (Text.trimChars text.toList) gs
  small : ∀ g ∈ gs, decimal g ≤ componentMax

/-- A version is read exactly from the texts that write it with groups short enough to be read. -/
theorem tryParse_eq_some_iff : tryParse text = .ok (some v) ↔
    v.Proper ∧ ∃ gs, IsNumeric text gs ∧ (∀ g ∈ gs, g.length ≤ digitLimit) ∧
      v.components = gs.map decimal := by
  constructor
  · intro h
    obtain ⟨gs, hgs⟩ : ∃ gs, IsGrouped (Text.trimChars text.toList) gs := by
      by_contra hnone
      rw [tryParse_of_not_isGrouped (not_exists.mp hnone)] at h
      cases h
    have hshort : ∀ g ∈ gs, g.length ≤ digitLimit := by
      intro g hg
      by_contra hlong
      exact tryParse_isOk_iff.mp ⟨_, h⟩ ⟨gs, hgs, g, hg, Nat.lt_of_not_le hlong⟩
    rw [tryParse_of_isGrouped hgs hshort, Except.ok.injEq, Option.ite_none_right_eq_some] at h
    obtain ⟨hsmall, hv⟩ := h
    obtain ⟨hproper, hcomponents⟩ := proper_of_ofComponents? hv (List.forall_mem_map.mpr hsmall)
    exact ⟨hproper, gs, ⟨hgs, hsmall⟩, hshort, hcomponents⟩
  · rintro ⟨hproper, gs, hgs, hshort, hcomponents⟩
    rw [tryParse_of_isGrouped hgs.grouped hshort, if_pos hgs.small, ← hcomponents,
      ofComponents?_components hproper]

/-- What is read as a version has a major and a minor component. -/
theorem isSome_of_tryParse (h : tryParse text = .ok (some v)) : v.major.isSome ∧ v.minor.isSome :=
  (proper_iff.mp (tryParse_eq_some_iff.mp h).1).1

/-- No run of digits is longer than a limit. -/
def RunsWithin (limit : Nat) (cs : List Char) : Prop :=
  ∀ run, run <:+: cs → (∀ c ∈ run, c.isDigit) → run.length ≤ limit

theorem RunsWithin.length_le {limit : Nat} (h : RunsWithin limit text.toList)
    (hgs : IsGrouped (Text.trimChars text.toList) gs) : ∀ g ∈ gs, g.length ≤ limit := by
  intro g hg
  have hpart : g <:+: Text.trimChars text.toList := hgs.text ▸ Span.infix_intercalate hg
  exact h g (hpart.trans (Text.trimChars_isInfix _)) (hgs.digits g hg).2

/-! ## Numerals -/

theorem decimal_toString (n : Nat) : decimal (toString n).toList = n := by
  rw [← readDigits_eq_decimal, Nat.toString_eq_repr, Nat.toList_repr]
  exact Nat.ofDigitChars_eq_foldl.symm.trans Nat.ofDigitChars_ten_toDigits

theorem digits_toString (n : Nat) :
    (toString n).toList ≠ [] ∧ ∀ c ∈ (toString n).toList, c.isDigit := by
  rw [Nat.toString_eq_repr, Nat.toList_repr]
  exact ⟨Nat.toDigits_ne_nil, fun c hc => Nat.isDigit_of_mem_toDigits (by decide) (by decide) hc⟩

theorem length_toString_le {n k : Nat} (hk : 0 < k) (h : n < 10 ^ k) :
    (toString n).toList.length ≤ k := by
  rw [Nat.toString_eq_repr, Nat.toList_repr]
  exact (Nat.length_toDigits_le_iff (by decide) hk).mpr h

/-- The components of a version as they are written. -/
def numerals (v : Version) : List (List Char) :=
  v.components.map fun n => (toString n).toList

theorem toList_toText (v : Version) : v.toText.toList = ['.'].intercalate v.numerals := by
  rw [toText, String.toList_intercalate, List.map_map]
  rfl

theorem map_decimal_numerals (v : Version) : v.numerals.map decimal = v.components := by
  rw [numerals, List.map_map]
  exact List.map_id'' decimal_toString v.components

theorem isGrouped_toText (h : v.Proper) : IsGrouped v.toText.toList v.numerals where
  text := toList_toText v
  digits := List.forall_mem_map.mpr fun n _ => digits_toString n
  two_le := by simpa [numerals] using (length_components h).1
  le_four := by simpa [numerals] using (length_components h).2

/-- A version is read back from its own text. -/
theorem tryParse_toText (h : v.Proper) : tryParse v.toText = .ok (some v) := by
  have hsmall := (proper_iff.mp h).2.2
  have htrim := Text.trimChars_eq_self (isGrouped_toText h).not_blank
  refine tryParse_eq_some_iff.mpr ⟨h, v.numerals, ⟨?_, ?_⟩, ?_, (map_decimal_numerals v).symm⟩
  · rw [htrim]
    exact isGrouped_toText h
  · refine List.forall_mem_map.mpr fun n hn => ?_
    rw [decimal_toString]
    exact hsmall n hn
  · refine List.forall_mem_map.mpr fun n hn => ?_
    have hten : n < 10 ^ 10 := Nat.lt_of_le_of_lt (hsmall n hn) (by decide)
    exact (length_toString_le (by decide) hten).trans (by decide)

/-- **A version is read exactly from the texts that write one.** Where no run of digits is too long to be read, a
text gives a version if and only if, without the blanks around it, it is two to four groups of digits joined by
points and each of them writes a number within range; these numbers are the components in order, the version is
one that the constructor makes, and any other text gives nothing without a fault. A version that the constructor
makes of a major and a minor component is read back from its text, so that no two of them are written alike. -/
theorem tryParse_spec :
    (∀ text : String, RunsWithin digitLimit text.toList →
      ((∃ v, tryParse text = .ok (some v)) ↔ ∃ gs, IsNumeric text gs) ∧
      (∀ v gs, tryParse text = .ok (some v) → IsNumeric text gs →
        v.components = gs.map decimal ∧ v.Proper) ∧
      ((¬ ∃ gs, IsNumeric text gs) → tryParse text = .ok none)) ∧
    (∀ v : Version, v.Proper → tryParse v.toText = .ok (some v)) ∧
    ∀ v w : Version, v.Proper → w.Proper → v.toText = w.toText → v = w := by
  refine ⟨fun text hruns => ⟨⟨?_, ?_⟩, ?_, ?_⟩, fun v => tryParse_toText, ?_⟩
  · rintro ⟨v, hv⟩
    obtain ⟨-, gs, hgs, -⟩ := tryParse_eq_some_iff.mp hv
    exact ⟨gs, hgs⟩
  · rintro ⟨gs, hgs⟩
    obtain ⟨v, hv⟩ := hgs.grouped.exists_version
    refine ⟨v, ?_⟩
    rw [tryParse_of_isGrouped hgs.grouped (hruns.length_le hgs.grouped), if_pos hgs.small, hv]
  · intro v gs hv hgs
    obtain ⟨hproper, hs, hhs, -, hcomponents⟩ := tryParse_eq_some_iff.mp hv
    rw [hgs.grouped.unique hhs.grouped]
    exact ⟨hcomponents, hproper⟩
  · intro hnone
    by_cases hgrouped : ∃ gs, IsGrouped (Text.trimChars text.toList) gs
    · obtain ⟨gs, hgs⟩ := hgrouped
      have hlarge : ¬ ∀ g ∈ gs, decimal g ≤ componentMax := fun hsmall => hnone ⟨gs, hgs, hsmall⟩
      rw [tryParse_of_isGrouped hgs (hruns.length_le hgs), if_neg hlarge]
    · exact tryParse_of_not_isGrouped (not_exists.mp hgrouped)
  · intro v w hv hw htext
    have hread := tryParse_toText hv
    rw [htext, tryParse_toText hw, Except.ok.injEq, Option.some.injEq] at hread
    exact hread.symm

theorem tryParse_spec_padded :
    RunsWithin digitLimit "\u2003010.0.2147483647\n".toList ∧
      IsNumeric "\u2003010.0.2147483647\n" ["010".toList, "0".toList, "2147483647".toList] ∧
      Proper { major := some 10, minor := some 0, build := some 2147483647 } ∧
      tryParse "\u2003010.0.2147483647\n" =
        .ok (some { major := some 10, minor := some 0, build := some 2147483647 }) ∧
      tryParse (toText { major := some 10, minor := some 0, build := some 2147483647 }) =
        .ok (some { major := some 10, minor := some 0, build := some 2147483647 }) := by
  have hruns : RunsWithin digitLimit "\u2003010.0.2147483647\n".toList := by
    intro run hrun _
    have hlength : "\u2003010.0.2147483647\n".toList.length ≤ digitLimit := by decide
    exact hrun.length_le.trans hlength
  have hnumeric : IsNumeric "\u2003010.0.2147483647\n" ["010".toList, "0".toList, "2147483647".toList] :=
    ⟨⟨by decide, by simp, by decide, by decide⟩, by decide⟩
  have hproper : Proper { major := some 10, minor := some 0, build := some 2147483647 } :=
    ⟨10, 0, some 2147483647, none, rfl⟩
  obtain ⟨hiff, hparts, -⟩ := tryParse_spec.1 _ hruns
  obtain ⟨v, hv⟩ := hiff.mpr ⟨_, hnumeric⟩
  obtain ⟨hcomponents, hmade⟩ := hparts v _ hv hnumeric
  have htext : v.toText = toText { major := some 10, minor := some 0, build := some 2147483647 } := by
    rw [toText, hcomponents]
    decide
  obtain rfl := tryParse_spec.2.2 v _ hmade hproper htext
  exact ⟨hruns, hnumeric, hproper, hv, tryParse_spec.2.1 _ hproper⟩

/-- A number that is out of range by one is no component, and nothing is refused. -/
example : (tryParse "1.2147483648").toOption = some none := by decide +kernel

end Version

end SolutionSurvey
