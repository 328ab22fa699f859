import SolutionSurvey.Package.Span
import Mathlib.Data.List.TakeWhile

/-!
# Which span of a version text is taken

A group that no digit follows is the whole run of digits at its place, so the readings of a place that
no digit follows differ only in how many groups they have. Those with more groups are tried first, which
makes the span of a place the longest one there. The best span of a text therefore ends furthest right
of all that could be read anywhere in it.

## Main definitions

* `IsSpan`, `IsBestSpan` — what it is for a part of a text to be a span, and to be the one to take.
* `Span.mem_readings` — the readings of a place are the groups that its text starts with.
* `Span.LongestFirst` — the first reading that no digit follows leaves the least text.
* `Span.mem_all_iff` — the spans of a text are the longest ones, one from each place that has any.
* `Span.best?_eq_some`, `Span.best?_eq_none_iff` — which span is taken, and when there is none.
-/

namespace SolutionSurvey

/-- A group of a span: one to nine digits. -/
structure IsGroup (g : List Char) : Prop where
  ne_nil : g ≠ []
  length_le : g.length ≤ 9
  digits : ∀ c ∈ g, c.isDigit = true

/-- The text from place `i` up to place `j` is two to four groups joined by points, with no digit before
it and none after it. -/
structure IsSpan (cs : List Char) (i j : Nat) (gs : List (List Char)) : Prop where
  le : i ≤ j
  le_length : j ≤ cs.length
  text : (cs.drop i).take (j - i) = ['.'].intercalate gs
  groups : ∀ g ∈ gs, IsGroup g
  two_le : 2 ≤ gs.length
  le_four : gs.length ≤ 4
  before : ∀ k, k + 1 = i → ∀ c ∈ cs[k]?, c.isDigit = false
  after : ∀ c ∈ cs[j]?, c.isDigit = false

/-- A span that ends furthest right, and of those that end there starts furthest left. -/
structure IsBestSpan (cs : List Char) (i j : Nat) (gs : List (List Char)) : Prop where
  span : IsSpan cs i j gs
  right : ∀ i' j' gs', IsSpan cs i' j' gs' → j' ≤ j
  left : ∀ i' gs', IsSpan cs i' j gs' → i ≤ i'

namespace Span

/-! ## Texts of groups -/

/-- Groups joined by points, as a first group and further ones that each have a point before them. -/
theorem intercalate_cons (g : List Char) (gs : List (List Char)) :
    ['.'].intercalate (g :: gs) = g ++ gs.flatMap ('.' :: ·) := by
  induction gs generalizing g with
  | nil => simp [List.intercalate_singleton]
  | cons h gs ih => simp [List.intercalate_cons_cons, ih h]

theorem length_intercalate (gs : List (List Char)) :
    (['.'].intercalate gs).length = gs.flatten.length + (gs.length - 1) := by
  have points : ∀ gs : List (List Char),
      (gs.flatMap ('.' :: ·)).length = gs.flatten.length + gs.length := by
    intro gs
    induction gs with
    | nil => rfl
    | cons g gs ih =>
        simp only [List.flatMap_cons, List.flatten_cons, List.length_append, List.length_cons, ih]
        omega
  cases gs with
  | nil => rfl
  | cons g gs =>
      simp only [intercalate_cons, List.length_append, points, List.flatten_cons, List.length_cons]
      omega

/-- Every character of a text of groups of digits is a digit or a point. -/
theorem digit_or_point {gs : List (List Char)} (h : ∀ g ∈ gs, ∀ c ∈ g, c.isDigit) :
    ∀ c ∈ ['.'].intercalate gs, c.isDigit = true ∨ c = '.' := by
  cases gs with
  | nil => simp
  | cons g gs =>
      simp only [intercalate_cons, List.mem_append, List.mem_flatMap, List.mem_cons]
      rintro c (hc | ⟨k, hk, rfl | hc⟩)
      · exact .inl (h g List.mem_cons_self c hc)
      · exact .inr rfl
      · exact .inl (h k (List.mem_cons_of_mem _ hk) c hc)

theorem infix_intercalate {g : List Char} {gs : List (List Char)} (h : g ∈ gs) :
    g <:+: ['.'].intercalate gs := by
  cases gs with
  | nil => cases h
  | cons k gs =>
      rw [intercalate_cons]
      rcases List.mem_cons.mp h with rfl | h
      · exact List.infix_append_left
      · have hpart : '.' :: g <:+: gs.flatMap ('.' :: ·) := by
          rw [List.flatMap_def]
          exact List.infix_of_mem_flatten (List.mem_map_of_mem h)
        exact ((List.suffix_cons '.' g).isInfix.trans hpart).trans List.infix_append_right

theorem splitOn_intercalate {gs : List (List Char)} (hgroups : ∀ g ∈ gs, IsGroup g) (hne : gs ≠ []) :
    (['.'].intercalate gs).splitOn '.' = gs := by
  apply List.splitOn_intercalate _ _ hne
  intro g hg hpoint
  have := (hgroups g hg).digits '.' hpoint
  simp at this

/-- The run of digits at the start of a text is the group that no digit follows. -/
theorem takeWhile_group {g rest : List Char} (hg : IsGroup g) (hrest : digitFollows rest = false) :
    (g ++ rest).takeWhile Char.isDigit = g := by
  have hnone : rest.takeWhile Char.isDigit = [] := by
    cases rest with
    | nil => rfl
    | cons c rest => simpa [digitFollows] using hrest
  rw [List.takeWhile_append_of_pos hg.digits, hnone, List.append_nil]

/-! ## What is read -/

/-- A reader reads a single group, perhaps after some `lead`. -/
def ReadsGroup (lead : List Char) (f : List Char → List Reading) : Prop :=
  ∀ cs r, r ∈ f cs ↔ ∃ g, IsGroup g ∧ r.1 = [g] ∧ cs = lead ++ g ++ r.2

theorem readsGroup_oneGroup : ReadsGroup [] oneGroup := by
  intro cs r
  simp only [oneGroup, List.mem_map, List.mem_reverse, List.mem_range]
  constructor
  · rintro ⟨n, hn, rfl⟩
    have hrun := (List.takeWhile_prefix (l := cs) Char.isDigit).length_le
    have hrun' : cs.take (n + 1) <+: cs.takeWhile Char.isDigit := by
      apply List.prefix_of_prefix_length_le (List.take_prefix _ _) (List.takeWhile_prefix _)
      rw [List.length_take]
      omega
    refine ⟨cs.take (n + 1), ⟨?_, ?_, ?_⟩, rfl, by simp⟩
    · intro hnil
      have := congrArg List.length hnil
      simp only [List.length_take, List.length_nil] at this
      omega
    · rw [List.length_take]
      omega
    · intro c hc
      exact List.mem_takeWhile_imp (hrun'.subset hc)
  · rintro ⟨g, hg, hr, hcs⟩
    have hpos : 0 < g.length := List.length_pos_iff.mpr hg.ne_nil
    have hrun : g.length ≤ (cs.takeWhile Char.isDigit).length := by
      rw [hcs, List.nil_append, List.takeWhile_append_of_pos hg.digits, List.length_append]
      omega
    have hle := hg.length_le
    refine ⟨g.length - 1, by omega, ?_⟩
    rw [Nat.sub_add_cancel hpos, hcs]
    exact Prod.ext (by simp [hr]) (by simp)

theorem readsGroup_nextGroup : ReadsGroup ['.'] nextGroup := by
  intro cs r
  unfold nextGroup
  split
  · next rest =>
      rw [readsGroup_oneGroup rest r]
      simp
  · next hpoint =>
      simp only [List.not_mem_nil, false_iff]
      rintro ⟨g, -, -, hcs⟩
      exact hpoint _ hcs

theorem mem_andThen {f g : List Char → List Reading} {cs : List Char} {p : Reading} :
    p ∈ andThen f g cs ↔ ∃ r ∈ f cs, ∃ q ∈ g r.2, p = (r.1 ++ q.1, q.2) := by
  simp [andThen, eq_comm]

theorem mem_further (limit : Nat) (cs : List Char) (p : Reading) :
    p ∈ further limit cs ↔
      p.1.length ≤ limit ∧ (∀ g ∈ p.1, IsGroup g) ∧ cs = p.1.flatMap ('.' :: ·) ++ p.2 := by
  obtain ⟨gs, rest⟩ := p
  induction limit generalizing cs gs with
  | zero =>
      simp only [further, List.mem_singleton, Prod.mk.injEq, Nat.le_zero, List.length_eq_zero_iff]
      constructor
      · rintro ⟨rfl, rfl⟩
        simp
      · rintro ⟨rfl, -, hcs⟩
        exact ⟨rfl, by simpa using hcs.symm⟩
  | succ limit ih =>
      simp only [further, List.mem_append, mem_andThen, List.mem_singleton, Prod.mk.injEq]
      constructor
      · rintro (⟨r, hr, q, hq, rfl, rfl⟩ | ⟨rfl, rfl⟩)
        · obtain ⟨g, hg, hr1, hcs⟩ := (readsGroup_nextGroup cs r).mp hr
          obtain ⟨hlen, hgroups, hr2⟩ := (ih r.2 q.1).mp hq
          rw [hr1]
          refine ⟨by simpa using hlen, ?_, ?_⟩
          · simpa [hg] using hgroups
          · rw [hcs, hr2]
            simp
        · simp
      · rintro ⟨hlen, hgroups, hcs⟩
        cases gs with
        | nil => exact .inr ⟨rfl, by simpa using hcs.symm⟩
        | cons g gs =>
            refine .inl ⟨([g], gs.flatMap ('.' :: ·) ++ rest), ?_, (gs, rest), ?_, rfl, rfl⟩
            · refine (readsGroup_nextGroup cs _).mpr ⟨g, hgroups g (by simp), rfl, ?_⟩
              rw [hcs]
              simp
            · exact (ih _ gs).mpr ⟨by simpa using hlen, fun h hh => hgroups h (by simp [hh]), rfl⟩

/-- The readings are the texts of two to four groups that a text starts with. -/
theorem mem_readings (cs : List Char) (p : Reading) :
    p ∈ readings cs ↔ (2 ≤ p.1.length ∧ p.1.length ≤ 4) ∧ (∀ g ∈ p.1, IsGroup g) ∧
      cs = ['.'].intercalate p.1 ++ p.2 := by
  simp only [readings, mem_andThen]
  constructor
  · rintro ⟨r, hr, _, ⟨s, hs, q, hq, rfl⟩, rfl⟩
    obtain ⟨g, hg, hr1, hcs⟩ := (readsGroup_oneGroup cs r).mp hr
    obtain ⟨h, hh, hs1, hr2⟩ := (readsGroup_nextGroup r.2 s).mp hs
    obtain ⟨hlen, hgroups, hs2⟩ := (mem_further 2 s.2 q).mp hq
    rw [hr1, hs1]
    refine ⟨by simp; omega, ?_, ?_⟩
    · simpa [hg, hh] using hgroups
    · rw [hcs, hr2, hs2]
      simp [intercalate_cons]
  · obtain ⟨gs, rest⟩ := p
    rintro ⟨⟨htwo, hfour⟩, hgroups, hcs⟩
    rcases gs with _ | ⟨g, _ | ⟨h, gs⟩⟩
    · simp at htwo
    · simp at htwo
    · have hg := hgroups g (by simp)
      have hh := hgroups h (by simp)
      have hmore : gs.length ≤ 2 := by
        simp only [List.length_cons] at hfour
        omega
      rw [intercalate_cons] at hcs
      refine ⟨([g], (h :: gs).flatMap ('.' :: ·) ++ rest), ?_, ([h] ++ gs, rest),
        ⟨([h], gs.flatMap ('.' :: ·) ++ rest), ?_, (gs, rest), ?_, rfl⟩, rfl⟩
      · exact (readsGroup_oneGroup cs _).mpr ⟨g, hg, rfl, by simpa using hcs⟩
      · exact (readsGroup_nextGroup _ _).mpr ⟨h, hh, rfl, by simp⟩
      · refine (mem_further 2 _ _).mpr ⟨hmore, ?_, rfl⟩
        intro k hk
        exact hgroups k (by simp [hk])

/-! ## The longest reading of a place -/

/-- Whether no digit follows a reading. -/
def Closed (p : Reading) : Prop := digitFollows p.2 = false

/-- Of the readings that no digit follows the first leaves the least text. -/
def LongestFirst (f : List Char → List Reading) : Prop :=
  ∀ cs p, (f cs).find? (fun r => !digitFollows r.2) = some p →
    ∀ q ∈ f cs, Closed q → p.2.length ≤ q.2.length

/-- No reading of a text that starts with a digit is closed. -/
def Guarded (f : List Char → List Reading) : Prop :=
  ∀ cs, ∀ p ∈ f cs, Closed p → digitFollows cs = false

/-- The closed readings of a single group all leave the same text. -/
theorem ReadsGroup.rest_eq {lead : List Char} {f : List Char → List Reading} (hf : ReadsGroup lead f)
    {cs : List Char} {p q : Reading} (hp : p ∈ f cs) (hq : q ∈ f cs) (hpc : Closed p)
    (hqc : Closed q) : p.2 = q.2 := by
  obtain ⟨g, hg, -, hcs⟩ := (hf cs p).mp hp
  obtain ⟨h, hh, -, hcs'⟩ := (hf cs q).mp hq
  have heq : g ++ p.2 = h ++ q.2 := by
    rw [← List.append_right_inj lead, ← List.append_assoc, ← List.append_assoc, ← hcs, hcs']
  have hgh : g = h := by
    rw [← takeWhile_group hg hpc, heq, takeWhile_group hh hqc]
  exact List.append_cancel_left (hgh ▸ heq)

/-- A group and what is read after it: the group is settled, so that the later reader decides. -/
theorem ReadsGroup.longestFirst {lead : List Char} {f s : List Char → List Reading}
    (hf : ReadsGroup lead f) (hs : LongestFirst s) (hguard : Guarded s) :
    LongestFirst (andThen f s) := by
  intro cs p hp q hq hqc
  simp only [andThen, List.find?_flatMap, List.find?_map] at hp
  obtain ⟨r, hr, hfound⟩ := List.exists_of_findSome?_eq_some hp
  obtain ⟨p', hp', rfl⟩ := Option.map_eq_some_iff.mp hfound
  obtain ⟨r', hr', q', hq', rfl⟩ := mem_andThen.mp hq
  have hpc : Closed p' := by simpa [Closed] using List.find?_some hp'
  have hrest : r.2 = r'.2 :=
    hf.rest_eq hr hr' (hguard _ _ (List.mem_of_find?_eq_some hp') hpc) (hguard _ _ hq' hqc)
  exact hs r.2 p' hp' q' (hrest ▸ hq') hqc

theorem guarded_further (limit : Nat) : Guarded (further limit) := by
  intro cs p hp hpc
  obtain ⟨-, -, hcs⟩ := (mem_further limit cs p).mp hp
  rcases hgs : p.1 with _ | ⟨g, gs⟩
  · rw [hgs] at hcs
    simpa [hcs, Closed] using hpc
  · simp [hcs, hgs, digitFollows]

theorem guarded_andThen_nextGroup (s : List Char → List Reading) : Guarded (andThen nextGroup s) := by
  intro cs p hp _
  obtain ⟨r, hr, -⟩ := mem_andThen.mp hp
  obtain ⟨g, -, -, hcs⟩ := (readsGroup_nextGroup cs r).mp hr
  simp [hcs, digitFollows]

theorem longestFirst_further (limit : Nat) : LongestFirst (further limit) := by
  induction limit with
  | zero =>
      intro cs p hp q hq _
      have hp := List.mem_of_find?_eq_some hp
      simp only [further, List.mem_singleton] at hp hq
      rw [hp, hq]
  | succ limit ih =>
      intro cs p hp q hq hqc
      have hnext := readsGroup_nextGroup.longestFirst ih (guarded_further limit)
      have hle : p.2.length ≤ cs.length := by
        obtain ⟨-, -, hcs⟩ := (mem_further _ cs p).mp (List.mem_of_find?_eq_some hp)
        simp [hcs]
      simp only [further, List.find?_append] at hp
      rcases List.mem_append.mp hq with hq | hq
      · rcases Option.or_eq_some_iff.mp hp with hp | ⟨hnone, -⟩
        · exact hnext cs p hp q hq hqc
        · exact absurd hqc (by simpa [Closed] using List.find?_eq_none.mp hnone q hq)
      · rw [List.mem_singleton.mp hq]
        exact hle

theorem longestFirst_readings : LongestFirst readings :=
  readsGroup_oneGroup.longestFirst
    (readsGroup_nextGroup.longestFirst (longestFirst_further 2) (guarded_further 2))
    (guarded_andThen_nextGroup _)

/-! ## The spans of a text -/

/-- The span at a place is what one of its readings has read. -/
theorem isSpan_iff {cs : List Char} {i j : Nat} {gs : List (List Char)} :
    IsSpan cs i j gs ↔ ((i ≤ j ∧ j ≤ cs.length) ∧ (gs, cs.drop j) ∈ readings (cs.drop i) ∧
      Closed (gs, cs.drop j)) ∧ ∀ k, k + 1 = i → ∀ c ∈ cs[k]?, c.isDigit = false := by
  have hafter : Closed (gs, cs.drop j) ↔ ∀ c ∈ cs[j]?, c.isDigit = false := by
    cases h : cs[j]? <;> simp [Closed, digitFollows, List.head?_drop, h]
  have htext : i ≤ j → ((cs.drop i).take (j - i) = ['.'].intercalate gs ↔
      cs.drop i = ['.'].intercalate gs ++ cs.drop j) := by
    intro hij
    have hdrop : (cs.drop i).drop (j - i) = cs.drop j := by
      rw [List.drop_drop]
      congr 1
      omega
    rw [← List.append_left_inj (cs.drop j), ← hdrop, List.take_append_drop]
  rw [hafter, mem_readings]
  constructor
  · rintro ⟨hij, hj, hcs, hgroups, htwo, hfour, hbefore, hend⟩
    exact ⟨⟨⟨hij, hj⟩, ⟨⟨htwo, hfour⟩, hgroups, (htext hij).mp hcs⟩, hend⟩, hbefore⟩
  · rintro ⟨⟨⟨hij, hj⟩, ⟨⟨htwo, hfour⟩, hgroups, hcs⟩, hend⟩, hbefore⟩
    exact ⟨hij, hj, (htext hij).mpr hcs, hgroups, htwo, hfour, hbefore, hend⟩

/-- A place is looked at exactly if no digit stands before it. -/
theorem lookedAt_iff (lead rest : List Char) :
    lead.getLast?.any Char.isDigit = false ↔
      ∀ k, k + 1 = lead.length → ∀ c ∈ (lead ++ rest)[k]?, c.isDigit = false := by
  rcases List.eq_nil_or_concat lead with rfl | ⟨lead, c, rfl⟩
  · simp
  · simp

/-- A part of a text has one way to be groups. -/
theorem groups_eq {cs : List Char} {i j : Nat} {gs hs : List (List Char)} (hg : IsSpan cs i j gs)
    (hh : IsSpan cs i j hs) : gs = hs := by
  have hsplit : ∀ ks, IsSpan cs i j ks → (['.'].intercalate ks).splitOn '.' = ks := by
    intro ks hk
    have htwo := hk.two_le
    exact splitOn_intercalate hk.groups fun hnil => by simp [hnil] at htwo
  rw [← hsplit gs hg, ← hsplit hs hh, ← hg.text, ← hh.text]

/-- What stands before a span, the span, and what follows it. -/
theorem split_eq {cs : List Char} {i j : Nat} {gs : List (List Char)} (h : IsSpan cs i j gs) :
    cs.take i ++ ['.'].intercalate gs ++ cs.drop j = cs := by
  have hj : i + (j - i) = j := Nat.add_sub_of_le h.le
  calc cs.take i ++ ['.'].intercalate gs ++ cs.drop j
      = cs.take i ++ ((cs.drop i).take (j - i) ++ (cs.drop i).drop (j - i)) := by
        rw [h.text, List.drop_drop, hj, List.append_assoc]
    _ = cs := by rw [List.take_append_drop, List.take_append_drop]

theorem mem_allFrom_cons (pos : Nat) (before : Option Char) (c : Char) (cs : List Char) (s : Span) :
    s ∈ allFrom pos before (c :: cs) ↔
      (s.start = pos ∧ before.any Char.isDigit = false ∧ groupsAt? (c :: cs) = some s.groups) ∨
        s ∈ allFrom (pos + 1) (some c) cs := by
  obtain ⟨start, groups⟩ := s
  simp only [allFrom]
  cases before.any Char.isDigit with
  | true => simp
  | false => cases groupsAt? (c :: cs) <;> simp [eq_comm]

/-- From each place at which no digit stands before it there is the span that its readings give. -/
theorem mem_allFrom (lead cs : List Char) (s : Span) :
    s ∈ allFrom lead.length lead.getLast? cs ↔
      lead.length ≤ s.start ∧ (∀ k, k + 1 = s.start → ∀ c ∈ (lead ++ cs)[k]?, c.isDigit = false) ∧
        groupsAt? ((lead ++ cs).drop s.start) = some s.groups := by
  induction cs generalizing lead with
  | nil =>
      simp only [allFrom, List.not_mem_nil, List.append_nil, false_iff]
      rintro ⟨hstart, -, hgroups⟩
      rw [List.drop_eq_nil_of_le hstart] at hgroups
      exact absurd hgroups (by simp [show groupsAt? [] = none from rfl])
  | cons c cs ih =>
      have hothers := ih (lead ++ [c])
      simp only [List.length_append, List.length_singleton, List.getLast?_concat, List.append_assoc,
        List.singleton_append] at hothers
      have hdrop : (lead ++ c :: cs).drop lead.length = c :: cs := List.drop_left
      rw [mem_allFrom_cons, hothers, lookedAt_iff lead (c :: cs)]
      constructor
      · rintro (⟨hstart, hbefore, hgroups⟩ | ⟨hstart, hrest⟩)
        · rw [hstart, hdrop]
          exact ⟨le_refl _, hbefore, hgroups⟩
        · exact ⟨by omega, hrest⟩
      · rintro ⟨hstart, hbefore, hgroups⟩
        rcases Nat.eq_or_lt_of_le hstart with heq | hlt
        · rw [← heq, hdrop] at hgroups
          exact .inl ⟨heq.symm, heq ▸ hbefore, hgroups⟩
        · exact .inr ⟨hlt, hbefore, hgroups⟩

/-- What the readings of a place give is the longest span there. -/
theorem groupsAt?_eq_some {cs : List Char} {i : Nat} {gs : List (List Char)}
    (hbefore : ∀ k, k + 1 = i → ∀ c ∈ cs[k]?, c.isDigit = false)
    (h : groupsAt? (cs.drop i) = some gs) :
    IsSpan cs i (stop ⟨i, gs⟩) gs ∧ ∀ j hs, IsSpan cs i j hs → j ≤ stop ⟨i, gs⟩ := by
  obtain ⟨⟨gs, rest⟩, hp, hfst⟩ := Option.map_eq_some_iff.mp h
  simp only at hfst
  subst hfst
  have hmem := List.mem_of_find?_eq_some hp
  have hclosed : Closed (gs, rest) := by simpa [Closed] using List.find?_some hp
  obtain ⟨⟨htwo, -⟩, -, hcs⟩ := (mem_readings _ _).mp hmem
  have hlen := congrArg List.length hcs
  simp only [List.length_drop, List.length_append, length_intercalate] at hlen htwo
  have hrest : cs.drop (stop ⟨i, gs⟩) = rest := by
    have hstop : stop ⟨i, gs⟩ = i + (['.'].intercalate gs).length := by
      rw [length_intercalate]
      simp only [stop]
      omega
    rw [hstop, ← List.drop_drop, hcs, List.drop_left]
  have hspan : IsSpan cs i (stop ⟨i, gs⟩) gs := by
    refine isSpan_iff.mpr ⟨⟨?_, hrest ▸ hmem, hrest ▸ hclosed⟩, hbefore⟩
    simp only [stop]
    omega
  refine ⟨hspan, ?_⟩
  intro j hs hother
  obtain ⟨⟨⟨-, hj⟩, hmem', hclosed'⟩, -⟩ := isSpan_iff.mp hother
  have hle := longestFirst_readings _ _ hp _ hmem' hclosed'
  have hstop := hspan.le_length
  rw [← hrest] at hle
  simp only [List.length_drop] at hle
  omega

theorem exists_groupsAt? {cs : List Char} {i j : Nat} {gs : List (List Char)} (h : IsSpan cs i j gs) :
    ∃ hs, groupsAt? (cs.drop i) = some hs := by
  obtain ⟨⟨-, hmem, hclosed⟩, -⟩ := isSpan_iff.mp h
  rcases hgroups : groupsAt? (cs.drop i) with _ | hs
  · rw [groupsAt?, Option.map_eq_none_iff, List.find?_eq_none] at hgroups
    exact absurd hclosed (by simpa [Closed] using hgroups _ hmem)
  · exact ⟨hs, rfl⟩

/-- The spans that are found: from each place that has any, the longest. -/
theorem mem_all_iff {cs : List Char} {s : Span} :
    s ∈ all cs ↔
      IsSpan cs s.start s.stop s.groups ∧ ∀ j gs, IsSpan cs s.start j gs → j ≤ s.stop := by
  have hall : s ∈ all cs ↔ (∀ k, k + 1 = s.start → ∀ c ∈ cs[k]?, c.isDigit = false) ∧
      groupsAt? (cs.drop s.start) = some s.groups := by
    simpa [all] using mem_allFrom [] cs s
  rw [hall]
  constructor
  · rintro ⟨hbefore, hgroups⟩
    exact groupsAt?_eq_some hbefore hgroups
  · rintro ⟨hspan, hlongest⟩
    obtain ⟨hs, hfound⟩ := exists_groupsAt? hspan
    obtain ⟨hspan', hlongest'⟩ := groupsAt?_eq_some hspan.before hfound
    have hstop : stop ⟨s.start, hs⟩ = s.stop :=
      Nat.le_antisymm (hlongest _ _ hspan') (hlongest' _ _ hspan)
    rw [hstop] at hspan'
    exact ⟨hspan.before, groups_eq hspan' hspan ▸ hfound⟩

/-! ## The best span -/

/-- A span ends further right than another, or together with it and does not start further right. -/
def Beats (s t : Span) : Prop := t.stop < s.stop ∨ t.stop = s.stop ∧ s.start ≤ t.start

theorem Beats.refl (s : Span) : s.Beats s := .inr ⟨rfl, le_refl _⟩

theorem Beats.trans {s t u : Span} (hst : s.Beats t) (htu : t.Beats u) : s.Beats u := by
  simp only [Beats] at *
  omega

theorem better_beats (s t : Span) :
    (better s t).Beats s ∧ (better s t).Beats t ∧ (better s t = s ∨ better s t = t) := by
  simp only [better, Beats]
  split
  · next h =>
      refine ⟨?_, .inr ⟨rfl, le_refl _⟩, .inr rfl⟩
      omega
  · next h =>
      refine ⟨.inr ⟨rfl, le_refl _⟩, ?_, .inl rfl⟩
      omega

theorem foldl_better (s : Span) (ts : List Span) :
    ts.foldl better s ∈ s :: ts ∧ ∀ t ∈ s :: ts, (ts.foldl better s).Beats t := by
  induction ts generalizing s with
  | nil => simp [Beats.refl]
  | cons t ts ih =>
      obtain ⟨hmem, hbest⟩ := ih (better s t)
      obtain ⟨hs, ht, heq⟩ := better_beats s t
      have hfirst := hbest _ List.mem_cons_self
      simp only [List.foldl_cons, List.mem_cons] at hmem ⊢
      constructor
      · rcases hmem with hmem | hmem
        · rcases heq with heq | heq
          · exact .inl (hmem.trans heq)
          · exact .inr (.inl (hmem.trans heq))
        · exact .inr (.inr hmem)
      · rintro u (rfl | rfl | hu)
        · exact hfirst.trans hs
        · exact hfirst.trans ht
        · exact hbest u (List.mem_cons_of_mem _ hu)

/-- The span that is taken ends furthest right of all spans of the text, also of those that are not the
longest from their place, and starts furthest left of those that end there. -/
theorem best?_eq_some {cs : List Char} {s : Span} (h : best? cs = some s) :
    IsBestSpan cs s.start s.stop s.groups := by
  rcases hall : all cs with _ | ⟨t, ts⟩
  · simp [best?, hall] at h
  · obtain rfl : ts.foldl better t = s := by simpa [best?, hall] using h
    obtain ⟨hmem, hbest⟩ := foldl_better t ts
    rw [← hall] at hmem hbest
    have hless : ∀ i j gs, IsSpan cs i j gs → j < (ts.foldl better t).stop ∨
        j = (ts.foldl better t).stop ∧ (ts.foldl better t).start ≤ i := by
      intro i j gs hspan
      obtain ⟨hs, hfound⟩ := exists_groupsAt? hspan
      obtain ⟨hspan', hlongest⟩ := groupsAt?_eq_some hspan.before hfound
      have hbeats := hbest ⟨i, hs⟩ (mem_all_iff.mpr ⟨hspan', hlongest⟩)
      have hle := hlongest _ _ hspan
      simp only [Beats] at hbeats
      omega
    refine ⟨(mem_all_iff.mp hmem).1, ?_, ?_⟩
    · intro i j gs hspan
      have := hless i j gs hspan
      omega
    · intro i gs hspan
      have := hless i _ gs hspan
      omega

theorem best?_eq_none_iff {cs : List Char} : best? cs = none ↔ ∀ i j gs, ¬ IsSpan cs i j gs := by
  have hnone : best? cs = none ↔ all cs = [] := by
    rcases hall : all cs with _ | ⟨t, ts⟩ <;> simp [best?, hall]
  rw [hnone]
  constructor
  · intro hall i j gs hspan
    obtain ⟨hs, hfound⟩ := exists_groupsAt? hspan
    have hmem : ⟨i, hs⟩ ∈ all cs := mem_all_iff.mpr (groupsAt?_eq_some hspan.before hfound)
    simp [hall] at hmem
  · intro h
    apply List.eq_nil_iff_forall_not_mem.mpr
    intro s hs
    exact h _ _ _ (mem_all_iff.mp hs).1

end Span

end SolutionSurvey
