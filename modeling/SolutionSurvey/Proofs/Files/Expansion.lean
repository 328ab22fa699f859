import SolutionSurvey.Files.Glob
import SolutionSurvey.Proofs.Files.Scan
import Mathlib.Data.List.Perm.Basic

/-!
# What a pattern stands for

Two stars stand for all that is found along names that are not hidden, and a pattern of names for the entries
whose names have its form. So listings make no difference to which paths a pattern stands for, but only to the
order in which they are met; and since paths with different segments have different texts, the order of the
texts leaves nothing of that.

## Main definitions

* `FileTree.mem_visible` — what is visible below a tree.
* `Site.Relisted.steps_perm`, `Site.Relisted.expand_perm` — the paths of a pattern in two sites that differ only
  in listings.
* `FilePath.IsWritten`, `FilePath.segmentsOf_intercalate` — segments that their text writes.
* `Site.Relisted.expandFiles_eq` — the files of a pattern.
-/

namespace SolutionSurvey

namespace FileTree

variable {entries : List (String × FileTree)} {x : List String} {u : FileTree}

theorem visibleEntries_eq (entries : List (String × FileTree)) :
    visibleEntries entries = (entries.filter fun e => !isHidden e.1).flatMap fun e =>
      ([e.1], e.2) :: e.2.visible.map fun f => (e.1 :: f.1, f.2) := by
  induction entries with
  | nil => rfl
  | cons e rest ih =>
      obtain ⟨name, t⟩ := e
      rw [visibleEntries, ih, List.filter_cons]
      cases isHidden name <;> rfl

/-- An entry that is not hidden is visible, and with it what is visible below it. -/
theorem mem_visible_dir :
    (x, u) ∈ (dir entries).visible ↔ ∃ name t y, x = name :: y ∧ (name, t) ∈ entries ∧ isHidden name = false ∧
      (y = [] ∧ t = u ∨ (y, u) ∈ t.visible) := by
  rw [visible, visibleEntries_eq]
  simp only [List.mem_flatMap, List.mem_filter, List.mem_cons, List.mem_map, Bool.not_eq_true', Prod.mk.injEq]
  constructor
  · rintro ⟨⟨name, t⟩, ⟨hmem, hshown⟩, ⟨rfl, rfl⟩ | ⟨f, hf, rfl, rfl⟩⟩
    · exact ⟨name, u, [], rfl, hmem, hshown, .inl ⟨rfl, rfl⟩⟩
    · exact ⟨name, t, f.1, rfl, hmem, hshown, .inr hf⟩
  · rintro ⟨name, t, y, rfl, hmem, hshown, ⟨rfl, rfl⟩ | hy⟩
    · exact ⟨(name, t), ⟨hmem, hshown⟩, .inl ⟨rfl, rfl⟩⟩
    · exact ⟨(name, t), ⟨hmem, hshown⟩, .inr ⟨(y, u), hy, rfl, rfl⟩⟩

/-- **What is visible below a tree** is what names lead to that are not hidden. -/
theorem mem_visible {t : FileTree} (h : t.WellFormed) :
    (x, u) ∈ t.visible ↔ x ≠ [] ∧ (∀ n ∈ x, IsName n ∧ isHidden n = false) ∧ t.find x = .ok u := by
  induction t using FileTree.induct generalizing x u with
  | file content =>
      refine iff_of_false nofun ?_
      rintro ⟨hne, -, hfind⟩
      cases x with
      | nil => exact hne rfl
      | cons n rest => cases hfind
  | dir entries ih =>
      have hentries := (wellFormed_dir.mp h).2
      have hbelow (name : String) (t : FileTree) (y : List String) (hmem : (name, t) ∈ entries) :
          (y = [] ∧ t = u ∨ (y, u) ∈ t.visible) ↔
            (∀ n ∈ y, IsName n ∧ isHidden n = false) ∧ t.find y = .ok u := by
        rw [ih _ hmem (hentries _ hmem).2]
        cases y with
        | nil =>
            have hnil : t.find [] = .ok t := rfl
            simp [hnil]
        | cons n rest => simp
      rw [mem_visible_dir]
      constructor
      · rintro ⟨name, t, y, rfl, hmem, hshown, hy⟩
        obtain ⟨hnames, hfind⟩ := (hbelow name t y hmem).mp hy
        have hall : ∀ n ∈ name :: y, IsName n ∧ isHidden n = false :=
          List.forall_mem_cons.mpr ⟨⟨(hentries _ hmem).1.1, hshown⟩, hnames⟩
        exact ⟨List.cons_ne_nil name y, hall, (h.find_cons_eq_ok fun n hn => (hall n hn).1).mpr ⟨t, hmem, hfind⟩⟩
      · rintro ⟨hne, hall, hfind⟩
        obtain ⟨name, y, rfl⟩ := List.exists_cons_of_ne_nil hne
        obtain ⟨t, hmem, hend⟩ := (h.find_cons_eq_ok fun n hn => (hall n hn).1).mp hfind
        obtain ⟨⟨-, hshown⟩, hnames⟩ := List.forall_mem_cons.mp hall
        exact ⟨name, t, y, rfl, hmem, hshown, (hbelow name t y hmem).mpr ⟨hnames, hend⟩⟩

/-- Nothing is visible twice. -/
theorem nodup_visible {t : FileTree} (h : t.WellFormed) : (t.visible.map Prod.fst).Nodup := by
  induction t using FileTree.induct with
  | file content => exact List.nodup_nil
  | dir entries ih =>
      obtain ⟨hnodup, hentries⟩ := wellFormed_dir.mp h
      have hdistinct : (entries.filter fun e => !isHidden e.1).Pairwise fun a b => a.1 ≠ b.1 :=
        (List.pairwise_map.mp hnodup).filter _
      have hfirst (e : String × FileTree) :
          (([e.1], e.2) :: e.2.visible.map fun f => (e.1 :: f.1, f.2)).map Prod.fst =
            ([] :: e.2.visible.map Prod.fst).map (e.1 :: ·) := by
        simp [Function.comp_def]
      rw [visible, visibleEntries_eq, List.map_flatMap]
      simp only [hfirst]
      refine List.pairwise_flatMap.mpr ⟨fun e he => ?_, hdistinct.imp fun hne x hx y hy => ?_⟩
      · have hmem := List.mem_of_mem_filter he
        have hwell := (hentries e hmem).2
        have hnil : [] ∉ e.2.visible.map Prod.fst := by
          intro hmap
          obtain ⟨⟨y, u⟩, hf, rfl⟩ := List.mem_map.mp hmap
          exact ((mem_visible hwell).mp hf).1 rfl
        exact List.Nodup.map List.cons_injective (List.nodup_cons.mpr ⟨hnil, ih e hmem hwell⟩)
      · obtain ⟨p, -, rfl⟩ := List.mem_map.mp hx
        obtain ⟨q, -, rfl⟩ := List.mem_map.mp hy
        exact fun heq => hne (List.cons.inj heq).1

/-- Two outcomes that are the same up to entries lead to a directory both or to a file both. -/
theorem Agree.isDir_iff {x y : Except FileFaultKind FileTree} (h : Agree x y) (b : Bool) :
    (∃ t, x = .ok t ∧ t.isDir = b) ↔ ∃ t, y = .ok t ∧ t.isDir = b := by
  cases h with
  | error e => simp
  | file content => rfl
  | dir entries entries' => simp [isDir]

/-- Places without repetition, of which the directories are the same, and so are the files. -/
theorem perm_map_fst {α : Type} {l l' : List (α × FileTree)} (hl : (l.map Prod.fst).Nodup)
    (hl' : (l'.map Prod.fst).Nodup)
    (h : ∀ a b, (∃ t, (a, t) ∈ l' ∧ t.isDir = b) ↔ ∃ t, (a, t) ∈ l ∧ t.isDir = b) (p : α → Bool → Bool) :
    ((l'.filter fun e => p e.1 e.2.isDir).map Prod.fst).Perm
      ((l.filter fun e => p e.1 e.2.isDir).map Prod.fst) := by
  have hmem {l : List (α × FileTree)} (a : α) : a ∈ (l.filter fun e => p e.1 e.2.isDir).map Prod.fst ↔
      ∃ b, (∃ t, (a, t) ∈ l ∧ t.isDir = b) ∧ p a b := by
    simp only [List.mem_map, List.mem_filter]
    constructor
    · rintro ⟨⟨a, t⟩, ⟨hmem, hp⟩, rfl⟩
      exact ⟨t.isDir, ⟨t, hmem, rfl⟩, hp⟩
    · rintro ⟨-, ⟨t, hmem, rfl⟩, hp⟩
      exact ⟨(a, t), ⟨hmem, hp⟩, rfl⟩
  refine (List.perm_ext_iff_of_nodup (hl'.sublist (List.filter_sublist.map Prod.fst))
    (hl.sublist (List.filter_sublist.map Prod.fst))).mpr fun a => ?_
  rw [hmem, hmem]
  simp only [h]

end FileTree

/-! ## Sites -/

namespace Site

variable {s s' : Site} {p : FilePath} {x : List String} {u : FileTree}

theorem wellFormed_reach (hs : s.tree.WellFormed) (p : FilePath) : (s.reach p).WellFormed := by
  rw [reach]
  cases hfind : s.find p with
  | ok t => exact hs.of_find hfind
  | error e => exact FileTree.wellFormed_dir.mpr ⟨List.nodup_nil, nofun⟩

/-- Names lead from where a path leads to, if they are not none. -/
theorem find_reach (hx : ∀ n ∈ x, IsName n) (hne : x ≠ []) :
    (s.reach p).find x = .ok u ↔ s.find (p.below x) = .ok u := by
  rw [find_below_of_names hx, reach]
  cases s.find p with
  | ok t => rfl
  | error e =>
      obtain ⟨n, rest, rfl⟩ := List.exists_cons_of_ne_nil hne
      refine iff_of_false (fun hfind => ?_) nofun
      have hempty : (FileTree.dir []).WellFormed := FileTree.wellFormed_dir.mpr ⟨List.nodup_nil, nofun⟩
      obtain ⟨t, hmem, -⟩ := (hempty.find_cons_eq_ok hx).mp hfind
      cases hmem

/-- What is visible from a path is what names lead to from there that are not hidden. -/
theorem mem_visible_reach (hs : s.tree.WellFormed) :
    (x, u) ∈ (s.reach p).visible ↔
      x ≠ [] ∧ (∀ n ∈ x, IsName n ∧ isHidden n = false) ∧ s.find (p.below x) = .ok u := by
  rw [FileTree.mem_visible (wellFormed_reach hs p)]
  refine and_congr_right fun hne => and_congr_right fun hx => ?_
  exact find_reach (fun n hn => (hx n hn).1) hne

/-- The entries of a path are what single names lead to from there. -/
theorem mem_entries_reach (hs : s.tree.WellFormed) {name : String} :
    (name, u) ∈ (s.reach p).entries ↔ IsName name ∧ s.find (p.below [name]) = .ok u := by
  have hreach := wellFormed_reach hs p
  have hone (hname : IsName name) : (s.reach p).find [name] = .ok u ↔ s.find (p.below [name]) = .ok u :=
    find_reach (List.forall_mem_singleton.mpr hname) (List.cons_ne_nil name [])
  cases hdir : s.reach p with
  | file content =>
      refine iff_of_false nofun ?_
      rintro ⟨hname, hfind⟩
      rw [← hone hname, hdir] at hfind
      cases hfind
  | dir entries =>
      rw [hdir] at hreach hone
      constructor
      · intro hmem
        have hname := ((FileTree.wellFormed_dir.mp hreach).2 _ hmem).1.1
        exact ⟨hname, (hone hname).mp
          ((hreach.find_cons_eq_ok (List.forall_mem_singleton.mpr hname)).mpr ⟨u, hmem, rfl⟩)⟩
      · rintro ⟨hname, hfind⟩
        obtain ⟨t, hmem, hend⟩ :=
          (hreach.find_cons_eq_ok (List.forall_mem_singleton.mpr hname)).mp ((hone hname).mpr hfind)
        obtain rfl : t = u := Except.ok.inj hend
        exact hmem

theorem nodup_entries_reach (hs : s.tree.WellFormed) (p : FilePath) :
    ((s.reach p).entries.map Prod.fst).Nodup := by
  have hreach := wellFormed_reach hs p
  cases hdir : s.reach p with
  | file content => exact List.nodup_nil
  | dir entries =>
      rw [hdir] at hreach
      exact (FileTree.wellFormed_dir.mp hreach).1

namespace Relisted

theorem isDir_iff (h : s.Relisted s') (hs : s.Sound) (p : FilePath) (b : Bool) :
    (∃ t, s'.find p = .ok t ∧ t.isDir = b) ↔ ∃ t, s.find p = .ok t ∧ t.isDir = b :=
  ((h.agree hs p).isDir_iff b).symm

/-- **The ways on along one segment are the same**, in whatever order. -/
theorem steps_perm (h : s.Relisted s') (hs : s.Sound) (more : Bool) (segment : String) (p : FilePath) :
    (s'.steps more segment p).Perm (s.steps more segment p) := by
  have hs' := h.sound hs
  rw [steps, steps]
  split
  · refine (List.Perm.refl _).append ?_
    have hvisible (x : List String) (b : Bool) : (∃ t, (x, t) ∈ (s'.reach p).visible ∧ t.isDir = b) ↔
        ∃ t, (x, t) ∈ (s.reach p).visible ∧ t.isDir = b := by
      simp only [mem_visible_reach hs'.tree, mem_visible_reach hs.tree, and_assoc, exists_and_left,
        h.isDir_iff hs]
    have hsame := FileTree.perm_map_fst (FileTree.nodup_visible (wellFormed_reach hs.tree p))
      (FileTree.nodup_visible (wellFormed_reach hs'.tree p)) hvisible fun _ b => !more || b
    have hmap := hsame.map p.below
    rw [List.map_map, List.map_map] at hmap
    exact hmap
  · split
    · have hentries (n : String) (b : Bool) : (∃ t, (n, t) ∈ (s'.reach p).entries ∧ t.isDir = b) ↔
          ∃ t, (n, t) ∈ (s.reach p).entries ∧ t.isDir = b := by
        simp only [mem_entries_reach hs'.tree, mem_entries_reach hs.tree, and_assoc, exists_and_left,
          h.isDir_iff hs]
      have hsame := FileTree.perm_map_fst (nodup_entries_reach hs.tree p) (nodup_entries_reach hs'.tree p)
        hentries fun n b => (!more || b) && (isHidden segment || !isHidden n) && Wild.accepts segment n
      have hmap := hsame.map p.child
      rw [List.map_map, List.map_map] at hmap
      exact hmap
    · rw [h.pathExists_eq hs]

/-- **The segments of a pattern lead to the same paths**, in whatever order. -/
theorem expandFrom_perm (h : s.Relisted s') (hs : s.Sound) {ps qs : List FilePath} (hperm : qs.Perm ps)
    (segments : List String) : (s'.expandFrom qs segments).Perm (s.expandFrom ps segments) := by
  induction segments generalizing ps qs with
  | nil => exact hperm
  | cons segment rest ih => exact ih (hperm.flatMap fun p _ => h.steps_perm hs _ segment p)

theorem expand_perm (h : s.Relisted s') (hs : s.Sound) (pattern : FilePath) :
    (s'.expand pattern).Perm (s.expand pattern) :=
  h.expandFrom_perm hs (.refl _) _

end Relisted

end Site

/-! ## Texts -/

namespace FilePath

/-- A segment that stands for itself in a text. -/
def IsWritten (segment : String) : Prop :=
  segment ≠ "" ∧ segment ≠ "." ∧ '/' ∉ segment.toList

instance (segment : String) : Decidable (IsWritten segment) :=
  inferInstanceAs (Decidable (_ ∧ _))

/-- The text of segments is read as these segments. -/
theorem segmentsOf_intercalate {names : List String} (h : ∀ n ∈ names, IsWritten n) :
    segmentsOf ("/".intercalate names) = names := by
  have hkeep : (names.filter fun p => p != "" && p != ".") = names :=
    List.filter_eq_self.mpr fun n hn => by simpa using ⟨(h n hn).1, (h n hn).2.1⟩
  by_cases hnil : names = []
  · subst hnil
    rfl
  · have hcut : (['/'].intercalate (names.map String.toList)).splitOn '/' = names.map String.toList :=
      List.splitOn_intercalate '/' (List.forall_mem_map.mpr fun n hn => (h n hn).2.2) (by simpa using hnil)
    have hback : (names.map String.toList).map String.ofList = names := by simp [Function.comp_def]
    have hchars : ("/".intercalate names).toList = ['/'].intercalate (names.map String.toList) :=
      String.toList_intercalate
    rw [segmentsOf, splitText, splitChars, hchars, hcut, hback, hkeep]

/-- Segments that a text writes stand for themselves. -/
theorem isWritten_segmentsOf (text : String) : ∀ n ∈ segmentsOf text, IsWritten n := by
  intro n hn
  obtain ⟨hcut, hkept⟩ := List.mem_filter.mp hn
  obtain ⟨piece, hpiece, rfl⟩ := List.mem_map.mp hcut
  have hne : String.ofList piece ≠ "" ∧ String.ofList piece ≠ "." := by simpa using hkept
  rw [splitChars, List.splitOn_eq_splitOnP] at hpiece
  refine ⟨hne.1, hne.2, fun hslash => ?_⟩
  rw [String.toList_ofList] at hslash
  exact absurd (mem_of_mem_splitOnP hpiece hslash).2 (by decide)

/-- A path with so many slashes at its start, and with segments that stand for themselves. -/
structure Spells (slashes : ℕ) (p : FilePath) : Prop where
  slashes_eq : p.slashes = slashes
  written : ∀ n ∈ p.segments, IsWritten n

/-- Such paths are known from their texts. -/
theorem Spells.eq_of_toText {slashes : ℕ} (hslashes : slashes ≠ 0) {p q : FilePath} (hp : p.Spells slashes)
    (hq : q.Spells slashes) (h : p.toText = q.toText) : p = q := by
  have htext {p : FilePath} (hp : p.Spells slashes) :
      p.toText = "".pushn '/' slashes ++ "/".intercalate p.segments := by
    rw [toText, if_neg fun hnone => hslashes (hp.slashes_eq ▸ hnone.1), hp.slashes_eq]
  have hsame : "/".intercalate p.segments = "/".intercalate q.segments := by
    rw [htext hp, htext hq] at h
    simpa [← String.toList_inj] using h
  have hsegments : p.segments = q.segments := by
    rw [← segmentsOf_intercalate hp.written, hsame, segmentsOf_intercalate hq.written]
  obtain ⟨k, segments⟩ := p
  obtain ⟨k', segments'⟩ := q
  exact congrArg₂ FilePath.mk (hp.slashes_eq.trans hq.slashes_eq.symm) hsegments

end FilePath

/-- The names of a well-formed tree stand for themselves. -/
theorem FileTree.WellFormed.isWritten {t : FileTree} (h : t.WellFormed) {x : List String} {u : FileTree}
    (hx : ∀ n ∈ x, IsName n) (hfind : t.find x = .ok u) : ∀ n ∈ x, FilePath.IsWritten n := by
  induction x generalizing t with
  | nil => exact nofun
  | cons name rest ih =>
      cases t with
      | file content => cases hfind
      | dir entries =>
          obtain ⟨t, hmem, hend⟩ := (h.find_cons_eq_ok hx).mp hfind
          obtain ⟨⟨hname, hslash⟩, ht⟩ := (wellFormed_dir.mp h).2 _ hmem
          have hrest := ih ht (List.forall_mem_cons.mp hx).2 hend
          exact List.forall_mem_cons.mpr ⟨⟨hname.1, hname.2.1, hslash⟩, hrest⟩

namespace Site

variable {s s' : Site}

/-- One segment of a pattern leads to paths that it and the names of the tree spell. -/
theorem spells_of_mem_steps (hs : s.tree.WellFormed) {slashes : ℕ} {more : Bool} {segment : String}
    (hsegment : FilePath.IsWritten segment) {p q : FilePath} (hp : p.Spells slashes)
    (hq : q ∈ s.steps more segment p) : q.Spells slashes := by
  have hbelow {x : List String} (hx : ∀ n ∈ x, FilePath.IsWritten n) : (p.below x).Spells slashes :=
    ⟨hp.slashes_eq, List.forall_mem_append.mpr ⟨hp.written, hx⟩⟩
  rw [steps] at hq
  split at hq
  · obtain hself | hvisible := List.mem_append.mp hq
    · split at hself
      · obtain rfl := List.mem_singleton.mp hself
        exact hp
      · cases hself
    · obtain ⟨⟨x, u⟩, hmem, rfl⟩ := List.mem_map.mp hvisible
      have hreach := wellFormed_reach hs p
      obtain ⟨-, hx, hfind⟩ := (FileTree.mem_visible hreach).mp (List.mem_of_mem_filter hmem)
      exact hbelow (hreach.isWritten (fun n hn => (hx n hn).1) hfind)
  · split at hq
    · obtain ⟨⟨name, u⟩, hmem, rfl⟩ := List.mem_map.mp hq
      have hreach := wellFormed_reach hs p
      obtain ⟨hname, hfind⟩ := (mem_entries_reach hs).mp (List.mem_of_mem_filter hmem)
      have hnames : ∀ n ∈ [name], IsName n := List.forall_mem_singleton.mpr hname
      exact hbelow (hreach.isWritten hnames ((find_reach hnames (List.cons_ne_nil name [])).mpr hfind))
    · split at hq
      · obtain rfl := List.mem_singleton.mp hq
        exact hbelow (List.forall_mem_singleton.mpr hsegment)
      · cases hq

theorem spells_of_mem_expandFrom (hs : s.tree.WellFormed) {slashes : ℕ} {segments : List String}
    (hsegments : ∀ n ∈ segments, FilePath.IsWritten n) {bases : List FilePath}
    (hbases : ∀ p ∈ bases, p.Spells slashes) : ∀ p ∈ s.expandFrom bases segments, p.Spells slashes := by
  induction segments generalizing bases with
  | nil => exact hbases
  | cons segment rest ih =>
      obtain ⟨hsegment, hrest⟩ := List.forall_mem_cons.mp hsegments
      refine ih hrest fun q hq => ?_
      obtain ⟨p, hp, hq⟩ := List.mem_flatMap.mp hq
      exact spells_of_mem_steps hs hsegment (hbases p hp) hq

theorem spells_of_mem_expand (hs : s.tree.WellFormed) {pattern : FilePath}
    (hpattern : ∀ n ∈ pattern.segments, FilePath.IsWritten n) :
    ∀ p ∈ s.expand pattern, p.Spells pattern.slashes := by
  refine spells_of_mem_expandFrom hs (fun n hn => hpattern n (List.mem_of_mem_drop hn)) ?_
  exact List.forall_mem_singleton.mpr ⟨rfl, fun n hn => hpattern n (List.takeWhile_subset _ hn)⟩

/-- **The files that a pattern stands for do not depend on listings.** -/
theorem Relisted.expandFiles_eq (h : s.Relisted s') (hs : s.Sound) {pattern : FilePath}
    (habsolute : pattern.isAbsolute) (hpattern : ∀ n ∈ pattern.segments, FilePath.IsWritten n) :
    s'.expandFiles pattern = s.expandFiles pattern := by
  have hslashes : pattern.slashes ≠ 0 := by simpa [FilePath.isAbsolute] using habsolute
  have hfiles : s'.isFile = s.isFile := funext (h.isFile_eq hs)
  have hperm : ((s'.expand pattern).filter s'.isFile).Perm ((s.expand pattern).filter s.isFile) := by
    rw [hfiles]
    exact (h.expand_perm hs pattern).filter _
  have hspells : ∀ p ∈ (s.expand pattern).filter s.isFile, p.Spells pattern.slashes := fun p hp =>
    spells_of_mem_expand hs.tree hpattern p (List.mem_of_mem_filter hp)
  exact mergeSort_text_of_perm FilePath.toText hperm fun p hp q hq heq =>
    (hspells p hp).eq_of_toText hslashes (hspells q hq) heq

end Site

end SolutionSurvey
