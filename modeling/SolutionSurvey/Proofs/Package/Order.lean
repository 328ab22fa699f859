import SolutionSurvey.Package.Identity
import SolutionSurvey.Proofs.Package.Version
import Mathlib.Data.List.Forall2
import Mathlib.Data.List.Induction

/-!
# The order of package identities

Identities are compared part by part, so that their order is transitive and two ways to compare agree.
Equal identities have the same hash, which is why a set holds one of each class of equal ones: the first
that was put into it. Sorted, these are in strict order, whatever order the set gives them in, and two
lists with the same classes lead to sorted lists that are equal place by place.

## Main definitions

* `PackageIdentity.hashKey_eq_of_same` — equal identities have the same hash.
* `PackageIdentity.mem_distinct_iff` — a set holds the first identity of each class.
* `PackageIdentity.StrictlySorted` — each identity is less than all later ones.
* `PackageIdentity.sort_distinct_of_perm` — sorting does not depend on the order in a set.
* `PackageIdentity.forall₂_same_of_strictlySorted` — strict lists of the same classes agree.
* `PackageIdentity.existsUnique_mem_sort_distinct`, `PackageIdentity.forall₂_sort_distinct` — the same for
  sorted sets.
-/

namespace SolutionSurvey

/-! ## Versions -/

namespace Version

theorem compareKeys_eq_compareLex (as bs : List Nat) :
    compareKeys as bs = as.compareLex Ord.compare bs := by
  induction as generalizing bs with
  | nil => cases bs <;> rfl
  | cons a as ih =>
      cases bs with
      | nil => rfl
      | cons b bs => rw [compareKeys, ih, List.compareLex_cons_cons]

/-- The order of versions is that of the lists of their keys. -/
theorem compare_eq_compareLex (v w : Version) :
    v.compare w = v.key.compareLex Ord.compare w.key :=
  compareKeys_eq_compareLex v.key w.key

instance : Std.TransCmp Version.compare where
  eq_swap {v w} := by
    simp only [compare_eq_compareLex]
    exact Std.OrientedCmp.eq_swap
  isLE_trans {u v w} huv hvw := by
    simp only [compare_eq_compareLex] at huv hvw ⊢
    exact Std.TransCmp.isLE_trans huv hvw

theorem componentKey_inj {a b : Option Nat} (h : componentKey a = componentKey b) : a = b := by
  cases a <;> cases b <;> simp_all [componentKey]

/-- Only one version is equal to a version. -/
theorem eq_of_compare_eq {v w : Version} (h : v.compare w = .eq) : v = w := by
  rw [compare_eq_compareLex] at h
  have hkeys : v.key = w.key := Std.LawfulEqCmp.eq_of_compare h
  simp only [key, List.map_cons, List.map_nil, List.cons.injEq, and_true] at hkeys
  obtain ⟨hmajor, hminor, hbuild, hrevision⟩ := hkeys
  cases v
  cases w
  rw [mk.injEq]
  exact ⟨componentKey_inj hmajor, componentKey_inj hminor, componentKey_inj hbuild,
    componentKey_inj hrevision⟩

instance : Std.LawfulEqCmp Version.compare where
  eq_of_compare := eq_of_compare_eq

/-- Versions with a major and a minor component can be compared. -/
theorem clash?_eq_none {v w : Version} (hv : v.major.isSome ∧ v.minor.isSome)
    (hw : w.major.isSome ∧ w.minor.isSome) : v.clash? w = none := by
  obtain ⟨⟨a, ha⟩, b, hb⟩ := hv.imp Option.isSome_iff_exists.mp Option.isSome_iff_exists.mp
  obtain ⟨⟨c, hc⟩, d, hd⟩ := hw.imp Option.isSome_iff_exists.mp Option.isSome_iff_exists.mp
  simp [clash?, ha, hb, hc, hd]

end Version

namespace PackageIdentity

/-! ## Comparison -/

theorem compare_eq_compareLex : PackageIdentity.compare =
    compareLex (compareOn fun p => Text.fold p.name) (compareLex (fun p q => p.version.compare q.version)
      (compareLex (compareOn fun p => Text.fold p.versionPrefix)
        (compareOn fun p => Text.fold p.versionSuffix))) := rfl

instance : Std.TransCmp fun p q : PackageIdentity => p.version.compare q.version where
  eq_swap := Std.OrientedCmp.eq_swap
  isLE_trans := Std.TransCmp.isLE_trans

instance : Std.TransCmp PackageIdentity.compare := by
  rw [compare_eq_compareLex]
  infer_instance

variable {p q r : PackageIdentity} {ps qs : List PackageIdentity}

@[simp] theorem same_iff : same p q = true ↔ p.compare q = .eq := by
  simp [same]

@[simp] theorem same_eq_false_iff : same p q = false ↔ p.compare q ≠ .eq := by
  simp [same]

theorem same_self (p : PackageIdentity) : same p p = true :=
  same_iff.mpr Std.ReflCmp.compare_self

theorem same_symm (h : same p q = true) : same q p = true :=
  same_iff.mpr (Std.OrientedCmp.eq_symm (same_iff.mp h))

theorem same_trans (hpq : same p q = true) (hqr : same q r = true) : same p r = true :=
  same_iff.mpr (Std.TransCmp.eq_trans (same_iff.mp hpq) (same_iff.mp hqr))

/-- Equal identities have the same hash. -/
theorem hashKey_eq_of_same (h : same p q = true) : p.hashKey = q.hashKey := by
  simp only [same_iff, compare, Ordering.then_eq_eq] at h
  obtain ⟨hname, hversion, -⟩ := h
  rw [hashKey, hashKey, Std.LawfulEqCmp.eq_of_compare hname, Version.eq_of_compare_eq hversion]

/-- A set takes two identities for each other exactly if they are equal. -/
@[simp] theorem covers_eq_same : covers p q = same p q := by
  unfold covers
  cases hsame : same p q with
  | false => simp
  | true => simp [hashKey_eq_of_same hsame]

/-! ## Sets -/

/-- One more identity changes a set only if nothing in it is equal. -/
theorem distinct_concat (ps : List PackageIdentity) (p : PackageIdentity) :
    distinct (ps ++ [p]) =
      if (distinct ps).any (same · p) then distinct ps else distinct ps ++ [p] := by
  simp only [distinct, List.foldl_append, List.foldl_cons, List.foldl_nil, covers_eq_same,
    List.any_reverse]
  split <;> simp

/-- A set holds an equal one for each identity that was put into it. -/
theorem exists_mem_distinct (h : p ∈ ps) : ∃ d ∈ distinct ps, same d p = true := by
  induction ps using List.reverseRecOn with
  | nil => cases h
  | append_singleton ps q ih =>
      rw [distinct_concat]
      by_cases hknown : (distinct ps).any (same · q) = true
      · rw [if_pos hknown]
        rcases List.mem_append.mp h with hp | hp
        · exact ih hp
        · rw [List.mem_singleton.mp hp]
          exact List.any_eq_true.mp hknown
      · rw [if_neg hknown]
        rcases List.mem_append.mp h with hp | hp
        · obtain ⟨d, hd, hsame⟩ := ih hp
          exact ⟨d, List.mem_append_left _ hd, hsame⟩
        · rw [List.mem_singleton.mp hp]
          exact ⟨q, by simp, same_self q⟩

/-- A set holds the first identity of each class of equal ones, and no other. -/
theorem mem_distinct_iff : p ∈ distinct ps ↔ ps.find? (same · p) = some p := by
  induction ps using List.reverseRecOn generalizing p with
  | nil => simp [distinct]
  | append_singleton ps q ih =>
      have hknown : (distinct ps).any (same · q) = true ↔ ∃ e ∈ ps, same e q = true := by
        rw [List.any_eq_true]
        constructor
        · rintro ⟨d, hd, hsame⟩
          exact ⟨d, List.mem_of_find?_eq_some (ih.mp hd), hsame⟩
        · rintro ⟨e, he, hsame⟩
          obtain ⟨d, hd, hde⟩ := exists_mem_distinct he
          exact ⟨d, hd, same_trans hde hsame⟩
      rw [distinct_concat, List.find?_append]
      rcases hfound : ps.find? (same · p) with _ | e
      · have hnone : ∀ e ∈ ps, same e p = false := by
          simpa using List.find?_eq_none.mp hfound
        have hout : p ∉ distinct ps := by simp [ih, hfound]
        by_cases hpq : p = q
        · subst hpq
          have hnew : (distinct ps).any (same · p) = false := by
            rw [← Bool.not_eq_true, hknown]
            rintro ⟨e, he, hsame⟩
            simp [hnone e he] at hsame
          simp [hnew, same_self p]
        · have hne : [q].find? (same · p) ≠ some p := fun h =>
            hpq (List.mem_singleton.mp (List.mem_of_find?_eq_some h))
          simp only [Option.none_or, hne, iff_false]
          split
          · exact hout
          · simp [hout, hpq]
      · have hin : p ∈ distinct ps ↔ e = p := by simp [ih, hfound]
        simp only [Option.some_or, Option.some.injEq, ← hin]
        split
        · rfl
        · rename_i hnew
          have hpq : p = q → e = p := by
            rintro rfl
            have hmem := List.mem_of_find?_eq_some hfound
            have hsame : same e p = true := by simpa using List.find?_some hfound
            exact absurd (hknown.mpr ⟨e, hmem, hsame⟩) hnew
          rw [List.mem_append, List.mem_singleton, hin]
          exact ⟨fun h => h.elim id hpq, Or.inl⟩

/-- No two identities of a set are equal. -/
theorem pairwise_distinct (ps : List PackageIdentity) :
    (distinct ps).Pairwise fun p q => same p q = false := by
  induction ps using List.reverseRecOn with
  | nil => simp [distinct]
  | append_singleton ps q ih =>
      rw [distinct_concat]
      split
      · exact ih
      · rename_i hnew
        refine List.pairwise_append.mpr ⟨ih, List.pairwise_singleton _ _, ?_⟩
        intro d hd e he
        rw [List.mem_singleton.mp he, ← Bool.not_eq_true]
        exact fun hsame => hnew (List.any_eq_true.mpr ⟨d, hd, hsame⟩)

/-! ## Sorted lists -/

/-- Each identity is less than all later ones. -/
def StrictlySorted (ps : List PackageIdentity) : Prop :=
  ps.Pairwise fun p q => p.compare q = .lt

theorem sort_perm (ps : List PackageIdentity) : (sort ps).Perm ps :=
  List.mergeSort_perm ps _

/-- In a sorted list no identity is greater than a later one. -/
theorem pairwise_sort (ps : List PackageIdentity) :
    (sort ps).Pairwise fun p q => p.compare q ≠ .gt := by
  have hle : ∀ p q : PackageIdentity, (p.compare q != .gt) = (p.compare q).isLE := by
    intro p q
    cases p.compare q <;> rfl
  have htrans : ∀ p q r : PackageIdentity, (p.compare q != .gt) = true → (q.compare r != .gt) = true →
      (p.compare r != .gt) = true := by
    intro p q r hpq hqr
    rw [hle] at hpq hqr ⊢
    exact Std.TransCmp.isLE_trans hpq hqr
  have htotal : ∀ p q : PackageIdentity, ((p.compare q != .gt) || (q.compare p != .gt)) = true := by
    intro p q
    have hswap : q.compare p = (p.compare q).swap := Std.OrientedCmp.eq_swap
    rw [hswap]
    cases p.compare q <;> rfl
  have hsorted := List.pairwise_mergeSort htrans htotal ps
  exact hsorted.imp fun h => by simpa using h

/-- That no two identities are equal does not depend on their order. -/
theorem pairwise_not_same_of_perm (hperm : ps.Perm qs) (h : qs.Pairwise fun p q => same p q = false) :
    ps.Pairwise fun p q => same p q = false := by
  refine (hperm.pairwise_iff ?_).mpr h
  intro p q hpq
  rw [← Bool.not_eq_true] at hpq ⊢
  exact mt same_symm hpq

/-- The identities of a set are in strict order once they are sorted. -/
theorem strictlySorted_sort (h : ps.Pairwise fun p q => same p q = false) :
    StrictlySorted (sort ps) := by
  refine List.Pairwise.imp₂ ?_ (pairwise_sort ps) (pairwise_not_same_of_perm (sort_perm ps) h)
  intro p q hgt hne
  cases hcompare : p.compare q with
  | lt => rfl
  | eq => simp [hcompare] at hne
  | gt => exact absurd hcompare hgt

/-- There is one way to bring identities into strict order. -/
theorem eq_of_perm_of_strictlySorted (hps : StrictlySorted ps) (hqs : StrictlySorted qs)
    (h : ps.Perm qs) : ps = qs := by
  refine h.eq_of_pairwise ?_ hps hqs
  intro p q _ _ hpq hqp
  exact absurd hqp (Std.OrientedCmp.not_lt_of_lt hpq)

/-- Sorting a set gives one result, in whatever order the set is gone through. -/
theorem sort_distinct_of_perm {order : List PackageIdentity} (h : order.Perm (distinct ps)) :
    sort order = sort (distinct ps) := by
  have hdistinct := pairwise_distinct ps
  have horder := pairwise_not_same_of_perm h hdistinct
  refine eq_of_perm_of_strictlySorted (strictlySorted_sort horder) (strictlySorted_sort hdistinct) ?_
  exact (sort_perm order).trans (h.trans (sort_perm _).symm)

/-- Two lists in strict order whose classes are the same are equal place by place. -/
theorem forall₂_same_of_strictlySorted (hps : StrictlySorted ps) (hqs : StrictlySorted qs)
    (hleft : ∀ p ∈ ps, ∃ q ∈ qs, same p q = true) (hright : ∀ q ∈ qs, ∃ p ∈ ps, same p q = true) :
    List.Forall₂ (fun p q => same p q = true) ps qs := by
  induction ps generalizing qs with
  | nil =>
      cases qs with
      | nil => exact .nil
      | cons q qs => simpa using hright q List.mem_cons_self
  | cons p ps ih =>
      cases qs with
      | nil => simpa using hleft p List.mem_cons_self
      | cons q qs =>
          obtain ⟨hp, hps⟩ := List.pairwise_cons.mp hps
          obtain ⟨hq, hqs⟩ := List.pairwise_cons.mp hqs
          -- Each head has an equal one in the other list, which is no less than the other head.
          have hpq : same p q = true := by
            obtain ⟨q', hq', hsame⟩ := hleft p List.mem_cons_self
            obtain ⟨p', hp', hsame'⟩ := hright q List.mem_cons_self
            rcases List.mem_cons.mp hq' with rfl | hq'
            · exact hsame
            · rcases List.mem_cons.mp hp' with rfl | hp'
              · exact hsame'
              · have hlt := Std.TransCmp.lt_of_lt_of_eq (hp p' hp') (same_iff.mp hsame')
                have hgt := Std.TransCmp.lt_of_lt_of_eq (hq q' hq')
                  (same_iff.mp (same_symm hsame))
                exact absurd hgt (Std.OrientedCmp.not_lt_of_lt hlt)
          refine .cons hpq (ih hps hqs ?_ ?_)
          · intro a ha
            obtain ⟨b, hb, hab⟩ := hleft a (List.mem_cons_of_mem _ ha)
            rcases List.mem_cons.mp hb with rfl | hb
            · have hpa := same_iff.mp (same_trans hpq (same_symm hab))
              simp [hp a ha] at hpa
            · exact ⟨b, hb, hab⟩
          · intro b hb
            obtain ⟨a, ha, hab⟩ := hright b (List.mem_cons_of_mem _ hb)
            rcases List.mem_cons.mp ha with rfl | ha
            · have hqb := same_iff.mp (same_trans (same_symm hpq) hab)
              simp [hq b hb] at hqb
            · exact ⟨a, ha, hab⟩

/-! ## Sets in order -/

/-- The sorted set has exactly one identity that is equal to a given one. -/
theorem existsUnique_mem_sort_distinct (h : p ∈ ps) :
    ∃! d, d ∈ sort (distinct ps) ∧ same p d = true := by
  obtain ⟨d, hd, hsame⟩ := exists_mem_distinct h
  refine ⟨d, ⟨(sort_perm _).mem_iff.mpr hd, same_symm hsame⟩, ?_⟩
  rintro e ⟨he, hpe⟩
  -- Both are the first identity of their class, and the class is one.
  have hfirst := mem_distinct_iff.mp hd
  have hfirst' := mem_distinct_iff.mp ((sort_perm _).mem_iff.mp he)
  have hde : same d e = true := same_trans hsame hpe
  have hclass : ∀ r, same r d = same r e := by
    intro r
    rw [Bool.eq_iff_iff]
    exact ⟨fun hr => same_trans hr hde, fun hr => same_trans hr (same_symm hde)⟩
  simp only [hclass] at hfirst
  exact Option.some.inj (hfirst'.symm.trans hfirst)

/-- The same identities in another order lead to a sorted set that is equal place by place. -/
theorem forall₂_sort_distinct (h : ps.Perm qs) :
    List.Forall₂ (fun p q => same p q = true) (sort (distinct ps)) (sort (distinct qs)) := by
  have hclass : ∀ {ps qs : List PackageIdentity}, ps.Perm qs → ∀ p ∈ sort (distinct ps),
      ∃ q ∈ sort (distinct qs), same p q = true := by
    intro ps qs hperm p hp
    have hps : p ∈ ps :=
      List.mem_of_find?_eq_some (mem_distinct_iff.mp ((sort_perm _).mem_iff.mp hp))
    obtain ⟨q, ⟨hq, hsame⟩, -⟩ := existsUnique_mem_sort_distinct (hperm.mem_iff.mp hps)
    exact ⟨q, hq, hsame⟩
  refine forall₂_same_of_strictlySorted (strictlySorted_sort (pairwise_distinct ps))
    (strictlySorted_sort (pairwise_distinct qs)) (hclass h) fun q hq => ?_
  obtain ⟨p, hp, hsame⟩ := hclass h.symm q hq
  exact ⟨p, hp, same_symm hsame⟩

end PackageIdentity

end SolutionSurvey
