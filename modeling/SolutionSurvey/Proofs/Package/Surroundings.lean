import SolutionSurvey.Proofs.Package.Span
import Mathlib.Data.List.Basic

/-!
# What makes a span the best one

Whether groups are the best span of a text depends on what stands around them and on how many they are, but not
on what they write: nothing after them is a span or one more group, and what stands before them ends in one more
group only if there are four of them already. So the best span stays the best one when its groups are replaced by
as many others.

## Main definitions

* `Span.Fits` — groups are a span between what stands before and after them.
* `Span.Settles` — so many groups are the best span between what stands before and after them.
* `Span.isSpan_iff_fits` — the spans of a text by the ways to cut it into three parts.
* `Span.isBestSpan_iff_settles` — what makes a span the best one.
* `Span.best?_eq_some_iff` — which span is taken.
* `Span.exists_settles`, `Span.best?_of_settles` — what is taken is settled, and what is settled is taken.
-/

namespace SolutionSurvey

namespace Span

variable {cs lead trail xs ys : List Char} {g : List Char} {gs gs' hs : List (List Char)} {i j : Nat}

/-- Whether a digit stands at the end of a text. -/
def digitEnds (lead : List Char) : Bool :=
  lead.getLast?.any Char.isDigit

/-- Between what stands before and after them, groups are a span. -/
structure Fits (lead : List Char) (gs : List (List Char)) (trail : List Char) : Prop where
  groups : ∀ g ∈ gs, IsGroup g
  two_le : 2 ≤ gs.length
  le_four : gs.length ≤ 4
  before : digitEnds lead = false
  after : digitFollows trail = false

/-- Between what stands before and after them, `count` groups are the best span: they cannot be extended to the
left or to the right, and no other span follows. -/
structure Settles (lead trail : List Char) (count : Nat) : Prop where
  before : digitEnds lead = false
  after : digitFollows trail = false
  left : ∀ front g, lead = front ++ g ++ ['.'] → digitEnds front = false → IsGroup g → 4 ≤ count
  right : ∀ g rest, trail = '.' :: g ++ rest → IsGroup g → digitFollows rest = true
  alone : ∀ i j gs, ¬ IsSpan trail i j gs

/-! ## Digits next to groups -/

@[simp] theorem digitEnds_nil : digitEnds [] = false := rfl

@[simp] theorem digitEnds_concat (c : Char) : digitEnds (xs ++ [c]) = c.isDigit := by
  simp [digitEnds]

theorem digitEnds_append (h : ys ≠ []) : digitEnds (xs ++ ys) = digitEnds ys := by
  rcases List.eq_nil_or_concat' ys with rfl | ⟨front, c, rfl⟩
  · exact absurd rfl h
  · rw [← List.append_assoc, digitEnds_concat, digitEnds_concat]

theorem digitFollows_intercalate (hgroups : ∀ g ∈ gs, IsGroup g) (hne : gs ≠ []) :
    digitFollows (['.'].intercalate gs ++ ys) = true := by
  obtain ⟨g, gs, rfl⟩ := List.exists_cons_of_ne_nil hne
  have hg := hgroups g List.mem_cons_self
  obtain ⟨c, rest, rfl⟩ := List.exists_cons_of_ne_nil hg.ne_nil
  rw [intercalate_cons, List.cons_append, List.cons_append]
  exact hg.digits c List.mem_cons_self

/-! ## Parts of groups -/

theorem intercalate_append (hgs : gs ≠ []) (hhs : hs ≠ []) :
    ['.'].intercalate (gs ++ hs) = ['.'].intercalate gs ++ '.' :: ['.'].intercalate hs := by
  obtain ⟨g, gs, rfl⟩ := List.exists_cons_of_ne_nil hgs
  obtain ⟨h, hs, rfl⟩ := List.exists_cons_of_ne_nil hhs
  simp [intercalate_cons]

theorem intercalate_inj (hgs : ∀ g ∈ gs, IsGroup g) (hhs : ∀ g ∈ hs, IsGroup g) (hgne : gs ≠ [])
    (hhne : hs ≠ []) (h : ['.'].intercalate gs = ['.'].intercalate hs) : gs = hs := by
  rw [← splitOn_intercalate hgs hgne, h, splitOn_intercalate hhs hhne]

/-- Groups end in their last group, before which there is a point or nothing. -/
theorem exists_last_group (hne : gs ≠ []) :
    ∃ front g, g ∈ gs ∧ ['.'].intercalate gs = front ++ g ∧
      ∀ xs, digitEnds xs = false → digitEnds (xs ++ front) = false := by
  rcases List.eq_nil_or_concat' gs with rfl | ⟨firsts, g, rfl⟩
  · exact absurd rfl hne
  · by_cases hfirsts : firsts = []
    · subst hfirsts
      exact ⟨[], g, by simp, by simp, fun xs hxs => by simpa using hxs⟩
    · refine ⟨['.'].intercalate firsts ++ ['.'], g, by simp, ?_, fun xs _ => ?_⟩
      · rw [intercalate_append hfirsts (by simp)]
        simp
      · rw [← List.append_assoc, digitEnds_concat]
        rfl

/-- A point in a text of groups stands between two groups. -/
theorem exists_split (hgroups : ∀ g ∈ gs, IsGroup g) (h : ['.'].intercalate gs = xs ++ '.' :: ys) :
    ∃ fs es, gs = fs ++ es ∧ fs ≠ [] ∧ es ≠ [] ∧ ['.'].intercalate fs = xs ∧ ['.'].intercalate es = ys := by
  have hne : gs ≠ [] := by
    rintro rfl
    simp at h
  have hsplit := splitOn_intercalate hgroups hne
  rw [h, List.splitOn_append_cons_self] at hsplit
  exact ⟨xs.splitOn '.', ys.splitOn '.', hsplit.symm, List.splitOn_ne_nil _ _, List.splitOn_ne_nil _ _,
    List.intercalate_splitOn '.', List.intercalate_splitOn '.'⟩

/-- Where no digit stands on one side of a place in groups, there is a point. -/
theorem eq_point_of_mem (hgroups : ∀ g ∈ gs, IsGroup g) {c : Char} (hc : c ∈ ['.'].intercalate gs)
    (hdigit : c.isDigit = false) : c = '.' := by
  rcases digit_or_point (fun g hg => (hgroups g hg).digits) c hc with h | h
  · rw [h] at hdigit
    cases hdigit
  · exact h

/-! ## Spans by what stands around them -/

theorem Fits.ne_nil (h : Fits lead gs trail) : gs ≠ [] := by
  rintro rfl
  simpa using h.two_le

theorem isSpan_iff_fits : IsSpan cs i j gs ↔
    ∃ lead trail, cs = lead ++ ['.'].intercalate gs ++ trail ∧ i = lead.length ∧
      j = (lead ++ ['.'].intercalate gs).length ∧ Fits lead gs trail := by
  constructor
  · intro h
    have hi : (cs.take i).length = i := List.length_take_of_le (h.le.trans h.le_length)
    have htext := congrArg List.length h.text
    rw [List.length_take, List.length_drop] at htext
    refine ⟨cs.take i, cs.drop j, (split_eq h).symm, hi.symm, ?_, h.groups, h.two_le, h.le_four, ?_, ?_⟩
    · have hle := h.le
      have hlength := h.le_length
      rw [List.length_append, hi]
      omega
    · refine (lookedAt_iff (cs.take i) (cs.drop i)).mpr ?_
      rw [List.take_append_drop, hi]
      exact h.before
    · rw [digitFollows, List.head?_drop]
      have hafter := h.after
      cases hc : cs[j]? with
      | none => rfl
      | some c => exact hafter c hc
  · rintro ⟨lead, trail, rfl, rfl, rfl, hfits⟩
    refine ⟨by simp, by simp, by simp, hfits.groups, hfits.two_le, hfits.le_four, ?_, ?_⟩
    · rw [List.append_assoc]
      exact (lookedAt_iff lead _).mp hfits.before
    · intro c hc
      have hafter := hfits.after
      rw [List.getElem?_append_right (le_refl _), Nat.sub_self, ← List.head?_eq_getElem?] at hc
      simpa [digitFollows, Option.mem_def.mp hc] using hafter

theorem Fits.isSpan (h : Fits lead gs trail) :
    IsSpan (lead ++ ['.'].intercalate gs ++ trail) lead.length (lead ++ ['.'].intercalate gs).length gs :=
  isSpan_iff_fits.mpr ⟨lead, trail, rfl, rfl, rfl, h⟩

/-! ## The best span by what stands around it -/

/-- No span of a text ends further right than one that nothing around it extends. -/
theorem Settles.right_le (h : Settles lead trail gs.length)
    (hspan : IsSpan (lead ++ ['.'].intercalate gs ++ trail) i j hs) :
    j ≤ (lead ++ ['.'].intercalate gs).length := by
  obtain ⟨front, back, htext, rfl, rfl, hfits⟩ := isSpan_iff_fits.mp hspan
  by_contra hlong
  rw [Nat.not_le] at hlong
  -- The other span takes something of what follows, and leaves `back`.
  obtain ⟨more, hmore, rfl⟩ : ∃ more, front ++ ['.'].intercalate hs =
      lead ++ ['.'].intercalate gs ++ more ∧ trail = more ++ back := by
    rcases List.append_eq_append_iff.mp htext with hright | ⟨more, hmore, -⟩
    · exact hright
    · rw [hmore, List.length_append] at hlong
      omega
  rcases List.append_eq_append_iff.mp hmore with ⟨part, -, hother⟩ | ⟨part, rfl, rfl⟩
  · -- It starts before: after a point one more group follows, or a span.
    cases more with
    | nil =>
        rw [hmore, List.append_nil] at hlong
        omega
    | cons c more =>
        have hc : c = '.' := eq_point_of_mem hfits.groups (hother ▸ by simp) h.after
        subst hc
        obtain ⟨fs, es, rfl, hfs, hes, -, rfl⟩ := exists_split hfits.groups hother
        have hfour := hfits.le_four
        have hpos := List.length_pos_iff.mpr hfs
        rw [List.length_append] at hfour
        have hgroups : ∀ g ∈ es, IsGroup g := fun g hg => hfits.groups g (List.mem_append_right fs hg)
        rcases es with _ | ⟨g, _ | ⟨k, es⟩⟩
        · exact hes rfl
        · have hdigit := h.right g back (by simp) (hgroups g (by simp))
          rw [hfits.after] at hdigit
          cases hdigit
        · have hnext : Fits ['.'] (g :: k :: es) back :=
            ⟨hgroups, by simp, by omega, rfl, hfits.after⟩
          exact h.alone _ _ _ hnext.isSpan
  · -- It starts in what follows.
    have hpart : digitEnds part = false := by
      by_cases hnil : part = []
      · rw [hnil]
        rfl
      · rw [← digitEnds_append hnil]
        exact hfits.before
    have hnext : Fits part hs back :=
      ⟨hfits.groups, hfits.two_le, hfits.le_four, hpart, hfits.after⟩
    exact h.alone _ _ _ hnext.isSpan

/-- No span that ends with one that nothing around it extends starts further left. -/
theorem Settles.le_left (h : Settles lead trail gs.length) (hgroups : ∀ g ∈ gs, IsGroup g) (hne : gs ≠ [])
    (hspan : IsSpan (lead ++ ['.'].intercalate gs ++ trail) i (lead ++ ['.'].intercalate gs).length hs) :
    lead.length ≤ i := by
  obtain ⟨front, back, htext, rfl, hstop, hfits⟩ := isSpan_iff_fits.mp hspan
  obtain ⟨hwhole, -⟩ := List.append_inj htext hstop
  rcases List.append_eq_append_iff.mp hwhole with ⟨part, rfl, -⟩ | ⟨part, rfl, hother⟩
  · simp
  · by_cases hnil : part = []
    · simp [hnil]
    -- Before the groups there are other ones with a point after them.
    obtain ⟨inner, c, rfl⟩ := (List.eq_nil_or_concat' part).resolve_left hnil
    have hc : c = '.' := by
      refine eq_point_of_mem hfits.groups (hother ▸ by simp) ?_
      have hbefore := h.before
      rwa [← List.append_assoc, digitEnds_concat] at hbefore
    subst hc
    rw [List.append_assoc, List.singleton_append] at hother
    obtain ⟨fs, es, rfl, hfs, hes, rfl, hgs⟩ := exists_split hfits.groups hother
    have hgs : es = gs :=
      intercalate_inj (fun g hg => hfits.groups g (List.mem_append_right fs hg)) hgroups hes hne hgs
    subst hgs
    obtain ⟨firsts, g, hg, hlast, hclear⟩ := exists_last_group hfs
    have hfull := h.left (front ++ firsts) g (by simp [hlast]) (hclear front hfits.before)
      (hfits.groups g (List.mem_append_left es hg))
    have hfour := hfits.le_four
    have hpos := List.length_pos_iff.mpr hfs
    rw [List.length_append] at hfour
    omega

/-- Where the best span ends every other span has ended. -/
theorem length_le_of_isBestSpan (hbest : IsBestSpan cs i j gs) (htext : cs = xs ++ ['.'].intercalate hs ++ ys)
    (hfits : Fits xs hs ys) : (xs ++ ['.'].intercalate hs).length ≤ j := by
  subst htext
  exact hbest.right _ _ _ hfits.isSpan

/-- The best span is settled by what stands around it. -/
theorem settles_of_isBestSpan
    (hbest : IsBestSpan (lead ++ ['.'].intercalate gs ++ trail) lead.length
      (lead ++ ['.'].intercalate gs).length gs) : Settles lead trail gs.length := by
  obtain ⟨front, back, htext, hstart, hstop, hfits⟩ := isSpan_iff_fits.mp hbest.span
  obtain ⟨hwhole, rfl⟩ := List.append_inj htext hstop
  obtain ⟨rfl, -⟩ := List.append_inj hwhole hstart
  refine ⟨hfits.before, hfits.after, ?_, ?_, ?_⟩
  · rintro front g rfl hclear hg
    by_contra hroom
    have hjoined := intercalate_append (List.cons_ne_nil g []) hfits.ne_nil
    rw [List.singleton_append, List.intercalate_singleton] at hjoined
    have hmore : Fits front (g :: gs) trail := by
      refine ⟨List.forall_mem_cons.mpr ⟨hg, hfits.groups⟩, ?_, ?_, hclear, hfits.after⟩
      · exact hfits.two_le.trans (Nat.le_succ _)
      · rw [List.length_cons]
        omega
    have htext : front ++ g ++ ['.'] ++ ['.'].intercalate gs = front ++ ['.'].intercalate (g :: gs) := by
      rw [hjoined]
      simp
    have hle := hbest.left front.length (g :: gs) (by rw [htext]; exact hmore.isSpan)
    simp only [List.length_append, List.length_singleton] at hle
    omega
  · rintro g rest rfl hg
    by_contra hclear
    rw [Bool.not_eq_true] at hclear
    obtain ⟨front, k, hk, hlast, hfront⟩ := exists_last_group hfits.ne_nil
    have hnext : Fits (lead ++ front) [k, g] rest :=
      ⟨by simp [hfits.groups k hk, hg], by simp, by simp, hfront lead hfits.before, hclear⟩
    have hle := length_le_of_isBestSpan hbest (by simp [hlast]) hnext
    simp only [hlast, intercalate_cons, List.length_append, List.flatMap_cons, List.length_cons,
      List.flatMap_nil, List.append_nil] at hle
    omega
  · intro i j ks hspan
    obtain ⟨front, back, rfl, -, -, hother⟩ := isSpan_iff_fits.mp hspan
    have hfront : front ≠ [] := by
      rintro rfl
      have hafter := hfits.after
      rw [List.nil_append, digitFollows_intercalate hother.groups hother.ne_nil] at hafter
      cases hafter
    have hclear : digitEnds (lead ++ ['.'].intercalate gs ++ front) = false := by
      rw [digitEnds_append hfront]
      exact hother.before
    have hle := length_le_of_isBestSpan hbest (by simp)
      ⟨hother.groups, hother.two_le, hother.le_four, hclear, hother.after⟩
    have hpos := List.length_pos_iff.mpr hfront
    rw [List.length_append, List.length_append] at hle
    omega

/-- **What stands around groups makes them the best span**, whatever they write. -/
theorem isBestSpan_iff_settles (hgroups : ∀ g ∈ gs, IsGroup g) (htwo : 2 ≤ gs.length)
    (hfour : gs.length ≤ 4) :
    IsBestSpan (lead ++ ['.'].intercalate gs ++ trail) lead.length (lead ++ ['.'].intercalate gs).length gs ↔
      Settles lead trail gs.length := by
  refine ⟨settles_of_isBestSpan, fun h => ?_⟩
  have hfits : Fits lead gs trail := ⟨hgroups, htwo, hfour, h.before, h.after⟩
  exact ⟨hfits.isSpan, fun i j ks => h.right_le, fun i ks => h.le_left hgroups hfits.ne_nil⟩

/-! ## Which span is taken -/

/-- There is one best span. -/
theorem best?_eq_some_iff {s : Span} : best? cs = some s ↔ IsBestSpan cs s.start s.stop s.groups := by
  refine ⟨best?_eq_some, fun h => ?_⟩
  rcases hbest : best? cs with _ | t
  · exact absurd h.span (best?_eq_none_iff.mp hbest _ _ _)
  · have ht := best?_eq_some hbest
    have hstop : t.stop = s.stop := Nat.le_antisymm (h.right _ _ _ ht.span) (ht.right _ _ _ h.span)
    have hstart : t.start = s.start :=
      Nat.le_antisymm (ht.left _ _ (hstop ▸ h.span)) (h.left _ _ (hstop ▸ ht.span))
    have hgroups : t.groups = s.groups := groups_eq (hstart ▸ hstop ▸ ht.span) h.span
    obtain ⟨start, groups⟩ := t
    subst hstart hgroups
    rfl

theorem stop_mk (i : Nat) (gs : List (List Char)) :
    stop ⟨i, gs⟩ = i + (['.'].intercalate gs).length := by
  rw [length_intercalate]
  exact Nat.add_assoc _ _ _

/-- The span that is taken is settled by what stands around it. -/
theorem exists_settles {s : Span} (h : best? cs = some s) :
    ∃ lead trail, cs = lead ++ ['.'].intercalate s.groups ++ trail ∧ Fits lead s.groups trail ∧
      Settles lead trail s.groups.length := by
  have hbest := best?_eq_some h
  obtain ⟨lead, trail, rfl, hstart, hstop, hfits⟩ := isSpan_iff_fits.mp hbest.span
  exact ⟨lead, trail, rfl, hfits, settles_of_isBestSpan (hstart ▸ hstop ▸ hbest)⟩

/-- Groups are taken wherever as many groups are settled. -/
theorem best?_of_settles (hfits : Fits lead gs trail) (h : Settles lead trail gs.length) :
    best? (lead ++ ['.'].intercalate gs ++ trail) = some ⟨lead.length, gs⟩ := by
  rw [best?_eq_some_iff, stop_mk, ← List.length_append]
  exact (isBestSpan_iff_settles hfits.groups hfits.two_le hfits.le_four).mpr h

/-- Where nothing stands around them, groups are settled. -/
theorem settles_nil (count : Nat) : Settles [] [] count := by
  refine ⟨rfl, rfl, ?_, ?_, ?_⟩
  · intro front g h
    simp at h
  · intro g rest h
    cases h
  · intro i j gs h
    exact best?_eq_none_iff.mp rfl i j gs h

end Span

end SolutionSurvey
