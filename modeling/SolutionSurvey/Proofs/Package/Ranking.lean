import SolutionSurvey.Package.Ranking
import SolutionSurvey.Proofs.Package.Order
import Mathlib.Data.List.Lex
import Mathlib.Data.Prod.Lex
import Mathlib.Data.String.Basic
import Mathlib.Order.Compare
import Mathlib.Order.WithBot

/-!
# Ranking is a total preorder

Ranks, equality, the four comparisons and hashes all look at an identity in their own way. Between identities whose
versions have a major and a minor component they agree, because each of them can be read off one linear order: the
lexicographic order of the folded name, the list of components, the folded prefix and the folded suffix, with a
missing identity below all of them.

## Main definitions

* `PackageIdentity.orderKey`, `PackageIdentity.place` — what is ordered, without and with a missing identity.
* `PackageIdentity.IsRanked` — the identities that can be ranked, and the missing one.
* `PackageIdentity.Arranged` — a list in order, as sorting leaves it.
* `PackageIdentity.rank_eq_sign` — ranks and orderings are the same.
* `PackageIdentity.compareOption_compares` — the ordering of two identities is that of their places.
* `PackageIdentity.forall₂_equal_of_arranged` — two arrangements of the same identities are equal place by place.
* `PackageIdentity.rank_spec` — the laws of ranks together.
-/

namespace SolutionSurvey

/-! ## Orderings of pairs and lists -/

/-- Two things of two parts each are ordered by the first parts, and by the second ones where these are equal, if
that is what less means between them. -/
theorem compares_then {α β γ : Type} [Preorder α] [Preorder β] [Preorder γ] {f : α → β → γ}
    (hf : ∀ a a' b b', f a b < f a' b' ↔ a < a' ∨ a = a' ∧ b < b') {a a' : α} {b b' : β}
    {o o' : Ordering} (hfirst : o.Compares a a') (hsecond : o'.Compares b b') :
    (o.then o').Compares (f a b) (f a' b') := by
  cases o with
  | lt => exact (hf a a' b b').mpr (.inl hfirst)
  | gt => exact (hf a' a b' b).mpr (.inl hfirst)
  | eq =>
      obtain rfl : a = a' := hfirst
      cases o' with
      | lt => exact (hf a a b b').mpr (.inr ⟨rfl, hsecond⟩)
      | gt => exact (hf a a b' b).mpr (.inr ⟨rfl, hsecond⟩)
      | eq => exact congrArg (f a) hsecond

theorem compares_toLex {α β : Type} [Preorder α] [Preorder β] {a a' : α} {b b' : β} {o o' : Ordering}
    (hfirst : o.Compares a a') (hsecond : o'.Compares b b') :
    (o.then o').Compares (toLex (a, b)) (toLex (a', b')) :=
  compares_then (f := fun a b => toLex (a, b)) (fun _ _ _ _ => Prod.Lex.toLex_lt_toLex) hfirst hsecond

theorem compares_cons {a b : Nat} {as bs : List Nat} {o o' : Ordering} (hhead : o.Compares a b)
    (htail : o'.Compares as bs) : (o.then o').Compares (a :: as) (b :: bs) :=
  compares_then (fun _ _ _ _ => List.cons_lt_cons_iff) hhead htail

/-! ## Versions -/

namespace Version

/-- Lists of numbers that are raised by one and filled up with zeros to a common length compare as the lists
themselves, a list before any list that continues it. -/
theorem compareKeys_compares {as bs : List Nat} {m n : Nat} (h : as.length + m = bs.length + n) :
    (compareKeys (as.map (· + 1) ++ List.replicate m 0)
      (bs.map (· + 1) ++ List.replicate n 0)).Compares as bs := by
  induction as generalizing bs with
  | nil =>
      cases bs with
      | nil =>
          obtain rfl : m = n := by simpa using h
          have hsame : compareKeys (List.replicate m 0) (List.replicate m 0) = .eq := by
            rw [compareKeys_eq_compareLex]
            exact Std.ReflCmp.compare_self
          rw [List.map_nil, List.nil_append, hsame]
          rfl
      | cons b bs =>
          simp only [List.length_nil, List.length_cons] at h
          obtain ⟨k, rfl⟩ : ∃ k, m = k + 1 := ⟨bs.length + n, by omega⟩
          exact List.nil_lt_cons b bs
  | cons a as ih =>
      cases bs with
      | nil =>
          simp only [List.length_nil, List.length_cons] at h
          obtain ⟨k, rfl⟩ : ∃ k, n = k + 1 := ⟨as.length + m, by omega⟩
          exact List.nil_lt_cons a as
      | cons b bs =>
          simp only [List.length_cons] at h
          have hraised : StrictMono fun n : Nat => n + 1 := fun _ _ => Nat.succ_lt_succ
          have hhead : (Ord.compare (a + 1) (b + 1)).Compares a b :=
            hraised.compares.mp ((compare_iff (a + 1) (b + 1)).mp rfl)
          exact compares_cons hhead (ih (by omega))

/-- The key of a proper version is made of its components alone. -/
theorem key_eq {v : Version} (h : v.Proper) :
    v.key = v.components.map (· + 1) ++ List.replicate (4 - v.components.length) 0 := by
  have hread := ofComponents?_components h
  unfold ofComponents? at hread
  split at hread
  · next hns => rw [hns]; cases hread; rfl
  · next hns => rw [hns]; cases hread; rfl
  · next hns => rw [hns]; cases hread; rfl
  · cases hread

/-- Proper versions are ordered as their components, a version before any version that continues it. -/
theorem compare_compares {v w : Version} (hv : v.Proper) (hw : w.Proper) :
    (v.compare w).Compares v.components w.components := by
  have hlength : v.components.length + (4 - v.components.length) =
      w.components.length + (4 - w.components.length) := by
    have := (length_components hv).2
    have := (length_components hw).2
    omega
  rw [compare, key_eq hv, key_eq hw]
  exact compareKeys_compares hlength

end Version

namespace PackageIdentity

variable {p q : PackageIdentity} {a b c : Option PackageIdentity} {ps qs : List PackageIdentity}

/-! ## Ranks and orderings -/

/-- An ordering as a number. -/
def sign : Ordering → Int
  | .lt => -1
  | .eq => 0
  | .gt => 1

/-- What is asked of the first part if that decides, and of the rest otherwise, is asked of both together. -/
theorem ite_beq_then {first rest o : Ordering} {differ : Prop} [Decidable differ] (h : differ ↔ first ≠ .eq) :
    (if differ then first == o else rest == o) = (first.then rest == o) := by
  cases first with
  | eq => rw [if_neg (by simp [h]), Ordering.eq_then]
  | lt => rw [if_pos (by simp [h]), Ordering.lt_then]
  | gt => rw [if_pos (by simp [h]), Ordering.gt_then]

/-- A comparison at the first difference asks for one outcome of the order, if it does so for each part. -/
theorem atFirstDifference_eq {texts : String → String → Bool} {versions : Version → Version → Bool}
    {o : Ordering} (ho : o ≠ .eq) (htexts : ∀ s t, texts s t = (Ord.compare s t == o))
    (hversions : ∀ v w, versions v w = (v.compare w == o)) (p q : PackageIdentity) :
    atFirstDifference texts versions p q = (p.compare q == o) := by
  have htext : ∀ s t : String, s ≠ t ↔ Ord.compare s t ≠ .eq := fun s t =>
    not_congr Std.LawfulEqCmp.compare_eq_iff_eq.symm
  have hversion : ∀ v w : Version, v ≠ w ↔ v.compare w ≠ .eq := fun v w =>
    not_congr Std.LawfulEqCmp.compare_eq_iff_eq.symm
  have hsame : false = (Ordering.eq == o) := (beq_eq_false_iff_ne.mpr ho.symm).symm
  -- The parts are put together from the last to the first.
  simp only [atFirstDifference, htexts, hversions]
  rw [hsame, ite_beq_then (htext _ _), ite_beq_then (htext _ _), ite_beq_then (hversion _ _),
    ite_beq_then (htext _ _), Ordering.then_eq]
  rfl

theorem keyBefore_eq (p q : PackageIdentity) : p.keyBefore q = (p.compare q == .lt) := by
  refine atFirstDifference_eq (by decide) (fun s t => ?_) (fun _ _ => rfl) p q
  rw [Bool.eq_iff_iff, decide_eq_true_iff, beq_iff_eq, compare_lt_iff_lt]

theorem keyAfter_eq (p q : PackageIdentity) : p.keyAfter q = (p.compare q == .gt) := by
  refine atFirstDifference_eq (by decide) (fun s t => ?_) (fun v w => ?_) p q
  · rw [Bool.eq_iff_iff, decide_eq_true_iff, beq_iff_eq, compare_gt_iff_gt]
  · have hsame : v = w ↔ v.compare w = .eq := Std.LawfulEqCmp.compare_eq_iff_eq.symm
    rw [Version.after, Version.before, bne, Bool.eq_iff_iff]
    cases hcompare : v.compare w <;> simp [hsame, hcompare]

/-- The rank of two identities is their ordering as a number. -/
theorem rank_eq_sign (a b : Option PackageIdentity) : rank a b = sign (compareOption a b) := by
  cases a with
  | none => cases b <;> rfl
  | some p =>
      cases b with
      | none => rfl
      | some q =>
          rw [rank, keyAfter_eq, keyBefore_eq, compareOption]
          cases p.compare q <;> rfl

/-! ## Places -/

/-- What identities are ordered by: the folded name, the components of the version, and the folded texts around
the version. -/
def orderKey (p : PackageIdentity) : String ×ₗ List Nat ×ₗ String ×ₗ String :=
  toLex (Text.fold p.name, toLex (p.version.components,
    toLex (Text.fold p.versionPrefix, Text.fold p.versionSuffix)))

/-- The order key of an identity, with a missing identity below all of them. -/
def place : Option PackageIdentity → WithBot (String ×ₗ List Nat ×ₗ String ×ₗ String)
  | none => ⊥
  | some p => p.orderKey

/-- An identity whose version has a major and a minor component, or a missing one. -/
def IsRanked (a : Option PackageIdentity) : Prop :=
  ∀ p ∈ a, p.version.Proper

theorem isRanked_some : IsRanked (some p) ↔ p.version.Proper := by
  simp [IsRanked]

/-- Four parts, of which three are texts, compared one after the other. -/
theorem compares_parts {name name' lead lead' trail trail' : String} {ns ns' : List Nat} {o : Ordering}
    (h : o.Compares ns ns') :
    ((Ord.compare name name').then (o.then ((Ord.compare lead lead').then (Ord.compare trail trail')))).Compares
      (toLex (name, toLex (ns, toLex (lead, trail)))) (toLex (name', toLex (ns', toLex (lead', trail')))) := by
  have htext : ∀ s t : String, (Ord.compare s t).Compares s t := fun s t => (compare_iff s t).mp rfl
  exact compares_toLex (htext name name') (compares_toLex h (compares_toLex (htext lead lead') (htext trail trail')))

theorem compare_compares (hp : p.version.Proper) (hq : q.version.Proper) :
    (p.compare q).Compares p.orderKey q.orderKey :=
  compares_parts (Version.compare_compares hp hq)

/-- The ordering of two identities is that of their places. -/
theorem compareOption_compares (ha : IsRanked a) (hb : IsRanked b) :
    (compareOption a b).Compares (place a) (place b) := by
  cases a with
  | none =>
      cases b with
      | none => exact rfl
      | some q => exact WithBot.bot_lt_coe q.orderKey
  | some p =>
      cases b with
      | none => exact WithBot.bot_lt_coe p.orderKey
      | some q =>
          have hkeys := compare_compares (isRanked_some.mp ha) (isRanked_some.mp hb)
          exact WithBot.coe_strictMono.compares.mpr hkeys

/-! ## Ranks and places -/

theorem rank_eq_neg_one_iff (ha : IsRanked a) (hb : IsRanked b) : rank a b = -1 ↔ place a < place b := by
  rw [← (compareOption_compares ha hb).eq_lt, rank_eq_sign]
  cases compareOption a b <;> simp [sign]

theorem rank_eq_zero_iff (ha : IsRanked a) (hb : IsRanked b) : rank a b = 0 ↔ place a = place b := by
  rw [← (compareOption_compares ha hb).eq_eq, rank_eq_sign]
  cases compareOption a b <;> simp [sign]

theorem rank_eq_one_iff (ha : IsRanked a) (hb : IsRanked b) : rank a b = 1 ↔ place b < place a := by
  rw [← (compareOption_compares ha hb).eq_gt, rank_eq_sign]
  cases compareOption a b <;> simp [sign]

/-- A rank is one of three numbers. -/
theorem rank_values (a b : Option PackageIdentity) : rank a b = -1 ∨ rank a b = 0 ∨ rank a b = 1 := by
  rw [rank_eq_sign]
  cases compareOption a b <;> simp [sign]

theorem rank_nonpos_iff (ha : IsRanked a) (hb : IsRanked b) : rank a b ≤ 0 ↔ place a ≤ place b := by
  rw [← (compareOption_compares ha hb).ne_gt, rank_eq_sign]
  cases compareOption a b <;> simp [sign]

/-- The other way round, a rank is the opposite number. -/
theorem rank_eq_neg (ha : IsRanked a) (hb : IsRanked b) : rank a b = -rank b a := by
  rcases lt_trichotomy (place a) (place b) with hlt | heq | hgt
  · rw [(rank_eq_neg_one_iff ha hb).mpr hlt, (rank_eq_one_iff hb ha).mpr hlt]
  · rw [(rank_eq_zero_iff ha hb).mpr heq, (rank_eq_zero_iff hb ha).mpr heq.symm, neg_zero]
  · rw [(rank_eq_one_iff ha hb).mpr hgt, (rank_eq_neg_one_iff hb ha).mpr hgt, neg_neg]

theorem rank_trans (ha : IsRanked a) (hb : IsRanked b) (hc : IsRanked c) (hab : rank a b ≤ 0)
    (hbc : rank b c ≤ 0) : rank a c ≤ 0 := by
  rw [rank_nonpos_iff ha hb] at hab
  rw [rank_nonpos_iff hb hc] at hbc
  exact (rank_nonpos_iff ha hc).mpr (hab.trans hbc)

/-! ## Equality, hashes and the four comparisons -/

theorem equal_iff : equal a b = true ↔ rank a b = 0 := by
  cases a <;> cases b <;> simp [equal, rank]

theorem same_of_equal (h : equal (some p) (some q) = true) : same p q = true := by
  rw [equal_iff, rank_eq_sign] at h
  rw [same_iff]
  change sign (p.compare q) = 0 at h
  cases hcompare : p.compare q <;> simp [hcompare, sign] at h ⊢

theorem below_iff : p.below q = true ↔ rank (some p) (some q) < 0 := by
  simp [below]

theorem atMost_iff : p.atMost q = true ↔ rank (some p) (some q) ≤ 0 := by
  rw [atMost, Bool.or_eq_true, below_iff, equal_iff]
  omega

theorem above_iff : p.above q = true ↔ 0 < rank (some p) (some q) := by
  rw [above, Bool.and_eq_true, Bool.not_eq_true', Bool.not_eq_true', ← Bool.not_eq_true, ← Bool.not_eq_true,
    below_iff, equal_iff]
  omega

theorem atLeast_iff : p.atLeast q = true ↔ 0 ≤ rank (some p) (some q) := by
  rw [atLeast, Bool.not_eq_true', ← Bool.not_eq_true, below_iff]
  omega

/-! ## Arrangements -/

/-- A list is in order: it has the given identities, and none of them is less than an earlier one. -/
structure Arranged (arranged ps : List PackageIdentity) : Prop where
  perm : arranged.Perm ps
  ordered : arranged.Pairwise fun p q => q.below p = false

theorem arranged_sort (ps : List PackageIdentity) : Arranged (sort ps) ps where
  perm := sort_perm ps
  ordered := by
    refine (pairwise_sort ps).imp fun {p q} h => ?_
    have hswap : q.compare p = (p.compare q).swap := Std.OrientedCmp.eq_swap
    rw [← Bool.not_eq_true, below_iff, rank_eq_sign, compareOption, hswap]
    cases hcompare : p.compare q <;> simp [hcompare, sign] at h ⊢

/-- The places of an arrangement ascend. -/
theorem Arranged.pairwise_place (h : Arranged ps qs) (hqs : ∀ p ∈ qs, p.version.Proper) :
    (ps.map fun p => place (some p)).Pairwise (· ≤ ·) := by
  refine List.pairwise_map.mpr (h.ordered.imp_of_mem fun {p q} hp hq hbelow => ?_)
  have hranked := isRanked_some.mpr (hqs p (h.perm.mem_iff.mp hp))
  have hranked' := isRanked_some.mpr (hqs q (h.perm.mem_iff.mp hq))
  rw [← Bool.not_eq_true, below_iff] at hbelow
  rw [← rank_nonpos_iff hranked hranked', rank_eq_neg hranked hranked']
  omega

/-- Two arrangements of the same identities are equal place by place. -/
theorem forall₂_equal_of_arranged {ps' qs' : List PackageIdentity} (hps : ∀ p ∈ ps, p.version.Proper)
    (hperm : ps.Perm qs) (hps' : Arranged ps' ps) (hqs' : Arranged qs' qs) :
    List.Forall₂ (fun p q => equal (some p) (some q) = true) ps' qs' := by
  have hqs : ∀ q ∈ qs, q.version.Proper := fun q hq => hps q (hperm.mem_iff.mpr hq)
  have hplaces : ps'.map (fun p => place (some p)) = qs'.map fun q => place (some q) := by
    refine List.Perm.eq_of_pairwise (fun _ _ _ _ => le_antisymm) (hps'.pairwise_place hps)
      (hqs'.pairwise_place hqs) ?_
    exact (hps'.perm.trans (hperm.trans hqs'.perm.symm)).map _
  rw [← List.forall₂_eq_eq_eq, List.forall₂_map_left_iff, List.forall₂_map_right_iff] at hplaces
  rw [List.forall₂_iff_zip] at hplaces ⊢
  obtain ⟨hlength, hplaces⟩ := hplaces
  refine ⟨hlength, fun {p q} hmem => ?_⟩
  obtain ⟨hp, hq⟩ := List.of_mem_zip hmem
  have hranked := isRanked_some.mpr (hps p (hps'.perm.mem_iff.mp hp))
  have hranked' := isRanked_some.mpr (hqs q (hqs'.perm.mem_iff.mp hq))
  exact equal_iff.mpr ((rank_eq_zero_iff hranked hranked').mpr (hplaces hmem))

/-- **Ranks are a total preorder on which everything else agrees.** Of identities whose versions have a major and a
minor component, and of a missing one, a rank is -1, 0 or 1, is the opposite number the other way round, and is
transitive; the missing one is below every identity. Two such identities can always be compared, and their rank is
the lexicographic order of the folded name, the components of the version, the folded prefix and the folded suffix.
They are equal exactly if their rank is zero, then they have the same hash, and the four comparisons agree with the
rank. However a list of them is arranged, sorting it gives lists that are equal place by place. -/
theorem rank_spec :
    (∀ a b : Option PackageIdentity, IsRanked a → IsRanked b →
      (rank a b = -1 ∨ rank a b = 0 ∨ rank a b = 1) ∧ rank a b = -rank b a ∧
      (equal a b = true ↔ rank a b = 0)) ∧
    (∀ a b c : Option PackageIdentity, IsRanked a → IsRanked b → IsRanked c →
      rank a b ≤ 0 → rank b c ≤ 0 → rank a c ≤ 0) ∧
    (∀ p : PackageIdentity, p.version.Proper → rank none (some p) = -1) ∧
    (∀ p q : PackageIdentity, p.version.Proper → q.version.Proper →
      p.clash? q = none ∧
      (rank (some p) (some q) = -1 ↔ p.orderKey < q.orderKey) ∧
      (rank (some p) (some q) = 0 ↔ p.orderKey = q.orderKey) ∧
      (rank (some p) (some q) = 1 ↔ q.orderKey < p.orderKey)) ∧
    (∀ p q : PackageIdentity, p.version.Proper → q.version.Proper →
      (equal (some p) (some q) = true → p.hashKey = q.hashKey) ∧
      (p.below q = true ↔ rank (some p) (some q) < 0) ∧
      (p.atMost q = true ↔ rank (some p) (some q) ≤ 0) ∧
      (p.above q = true ↔ 0 < rank (some p) (some q)) ∧
      (p.atLeast q = true ↔ 0 ≤ rank (some p) (some q))) ∧
    ∀ ps qs : List PackageIdentity, (∀ p ∈ ps, p.version.Proper) → ps.Perm qs →
      Arranged (sort ps) ps ∧
      List.Forall₂ (fun p q => equal (some p) (some q) = true) (sort ps) (sort qs) ∧
      ∀ ps' qs' : List PackageIdentity, Arranged ps' ps → Arranged qs' qs →
        List.Forall₂ (fun p q => equal (some p) (some q) = true) ps' qs' := by
  refine ⟨fun a b ha hb => ⟨rank_values a b, rank_eq_neg ha hb, equal_iff⟩,
    fun a b c ha hb hc => rank_trans ha hb hc, fun p _ => rfl, fun p q hp hq => ?_, fun p q _ _ => ?_,
    fun ps qs hps hperm => ?_⟩
  · have hcomparable : p.clash? q = none := by
      rw [clash?, Version.clash?_eq_none (Version.proper_iff.mp hp).1 (Version.proper_iff.mp hq).1, ite_self]
    have hranked := isRanked_some.mpr hp
    have hranked' := isRanked_some.mpr hq
    refine ⟨hcomparable, ?_, ?_, ?_⟩
    · rw [rank_eq_neg_one_iff hranked hranked']
      exact WithBot.coe_lt_coe
    · rw [rank_eq_zero_iff hranked hranked']
      exact WithBot.coe_inj
    · rw [rank_eq_one_iff hranked hranked']
      exact WithBot.coe_lt_coe
  · exact ⟨fun h => hashKey_eq_of_same (same_of_equal h), below_iff, atMost_iff, above_iff, atLeast_iff⟩
  · exact ⟨arranged_sort ps, forall₂_equal_of_arranged hps hperm (arranged_sort ps) (arranged_sort qs),
      fun ps' qs' => forall₂_equal_of_arranged hps hperm⟩

theorem rank_spec_packages :
    let plain : PackageIdentity := { name := "Json", version := { major := some 1, minor := some 2 } }
    let upper : PackageIdentity :=
      { name := "JSON", version := { major := some 1, minor := some 2, build := some 0 }, versionSuffix := "-RC" }
    let lower : PackageIdentity :=
      { name := "json", version := { major := some 1, minor := some 2, build := some 0 }, versionSuffix := "-rc" }
    (∀ p ∈ [plain, upper, lower], p.version.Proper) ∧
      rank (some plain) (some upper) = -1 ∧ rank (some upper) (some plain) = 1 ∧
      rank (some upper) (some lower) = 0 ∧ upper.hashKey = lower.hashKey ∧ plain.atMost lower = true ∧
      Arranged [plain, upper, lower] [lower, plain, upper] ∧
      List.Forall₂ (fun p q => equal (some p) (some q) = true) [plain, upper, lower] [plain, lower, upper] := by
  intro plain upper lower
  have hplain : plain.version.Proper := ⟨1, 2, none, none, rfl⟩
  have hupper : upper.version.Proper := ⟨1, 2, some 0, none, rfl⟩
  have hlower : lower.version.Proper := ⟨1, 2, some 0, none, rfl⟩
  obtain ⟨hsigns, htrans, -, hkeys, hagree, hlists⟩ := rank_spec
  have hless : rank (some plain) (some upper) = -1 :=
    (hkeys plain upper hplain hupper).2.1.mpr (by decide +kernel)
  have hsame : rank (some upper) (some lower) = 0 :=
    (hkeys upper lower hupper hlower).2.2.1.mpr (by decide +kernel)
  have hranked := isRanked_some.mpr hplain
  have hranked' := isRanked_some.mpr hupper
  obtain ⟨-, hopposite, -⟩ := hsigns _ _ hranked' hranked
  obtain ⟨-, -, hequal⟩ := hsigns _ _ hranked' (isRanked_some.mpr hlower)
  have hatMost := htrans _ _ _ hranked hranked' (isRanked_some.mpr hlower) (by omega) (by omega)
  have harranged : Arranged [plain, upper, lower] [lower, plain, upper] := ⟨by decide +kernel, by decide +kernel⟩
  have harranged' : Arranged [plain, lower, upper] [plain, lower, upper] := ⟨.refl _, by decide +kernel⟩
  refine ⟨by simp [hplain, hupper, hlower], hless, by omega, hsame, ?_, ?_, harranged, ?_⟩
  · exact (hagree upper lower hupper hlower).1 (hequal.mpr hsame)
  · exact (hagree plain lower hplain hlower).2.2.1.mpr hatMost
  · refine (hlists [lower, plain, upper] [plain, lower, upper] ?_ (.swap ..)).2.2 _ _ harranged harranged'
    simp [hplain, hupper, hlower]

end PackageIdentity

end SolutionSurvey
