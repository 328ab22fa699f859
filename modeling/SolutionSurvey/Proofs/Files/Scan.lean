import SolutionSurvey.Proofs.Files.Alike
import SolutionSurvey.Proofs.Files.Listing

/-!
# What a scan takes

A scan takes each file with one of the extensions, unless a directory on the way to it has an excluded name;
that a directory itself has such a name makes no difference to a scan of it. The files of a directory come
first, and then those of its subdirectories, both in the order of their names. Since this says what is taken
and in which order, a scan takes the same whatever the order in which directories list their entries.

## Main definitions

* `ScansBefore` — which segments a scan takes before which.
* `ScanRule.Takes` — the segments that a scan takes below a tree.
* `FileTree.mem_scan`, `FileTree.pairwise_scan` — what a scan takes, and in which order.
* `Site.Scanned`, `Site.scanned_scan` — the same for the directories of a site.
* `Site.Relisted.scan_eq` — scans of sites that differ only in the order of entries.
-/

namespace SolutionSurvey

/-- The order of a scan: the files of a directory come by name and before all that is below its
subdirectories, and these come by name. -/
inductive ScansBefore : List String → List String → Prop
  | files {a b : String} (h : a < b) : ScansBefore [a] [b]
  | fileFirst {x : List String} (a b : String) (hx : x ≠ []) : ScansBefore [a] (b :: x)
  | directories {a b : String} {x y : List String} (h : a < b) (hx : x ≠ []) (hy : y ≠ []) :
      ScansBefore (a :: x) (b :: y)
  | inside {x y : List String} (a : String) (h : ScansBefore x y) : ScansBefore (a :: x) (a :: y)

theorem ScansBefore.ne_nil {x y : List String} (h : ScansBefore x y) : x ≠ [] ∧ y ≠ [] := by
  cases h <;> simp

/-- Nothing comes both before and after something. -/
theorem ScansBefore.asymm {x y : List String} (h : ScansBefore x y) : ¬ ScansBefore y x := by
  induction h with
  | files hab =>
      intro hback
      cases hback with
      | files hba => exact String.lt_irrefl _ (String.lt_trans hab hba)
      | fileFirst _ _ hx => exact hx rfl
      | directories _ hx _ => exact hx rfl
      | inside _ hnil => exact hnil.ne_nil.1 rfl
  | fileFirst a b hx =>
      intro hback
      cases hback with
      | files _ => exact hx rfl
      | fileFirst _ _ hnil => exact hnil rfl
      | directories _ _ hnil => exact hnil rfl
      | inside _ hnil => exact hnil.ne_nil.2 rfl
  | directories hab hx hy =>
      intro hback
      cases hback with
      | files _ => exact hx rfl
      | fileFirst _ _ _ => exact hy rfl
      | directories hba _ _ => exact String.lt_irrefl _ (String.lt_trans hab hba)
      | inside _ _ => exact String.lt_irrefl _ hab
  | inside a hxy ih =>
      intro hback
      cases hback with
      | files haa => exact String.lt_irrefl _ haa
      | fileFirst _ _ _ => exact hxy.ne_nil.2 rfl
      | directories haa _ _ => exact String.lt_irrefl _ haa
      | inside _ hyx => exact ih hyx

namespace ScanRule

variable {name : String}

theorem takes_iff (rule : ScanRule) :
    rule.takes name ↔ Text.lower (FilePath.suffixOf name) ∈ rule.extensions := by
  simp [takes]

theorem enters_iff (rule : ScanRule) :
    rule.enters name ↔ ∀ excluded ∈ rule.excluded, Text.lower name ≠ Text.lower excluded := by
  rw [enters, Bool.not_eq_true', ← Bool.not_eq_true, List.contains_iff_mem, List.mem_map]
  constructor
  · exact fun hnot excluded hmem heq => hnot ⟨excluded, hmem, heq.symm⟩
  · rintro hne ⟨excluded, hmem, heq⟩
    exact hne excluded hmem heq.symm

end ScanRule

/-- The segments that a scan takes below a tree: they lead to a file with one of the extensions, through
directories that are entered. -/
def ScanRule.Takes (rule : ScanRule) (t : FileTree) (x : List String) : Prop :=
  ∃ above name content, x = above ++ [name] ∧ (∀ n ∈ x, IsName n) ∧ t.find x = .ok (.file content) ∧
    rule.takes name ∧ ∀ n ∈ above, rule.enters n

namespace FileTree

variable {rule : ScanRule} {entries : List (String × FileTree)} {x : List String}

/-- Below a directory a scan takes files of its own and what it takes below the subdirectories that it
enters. -/
theorem takes_dir (h : (dir entries).WellFormed) :
    rule.Takes (dir entries) x ↔
      (∃ name content, x = [name] ∧ (name, .file content) ∈ entries ∧ rule.takes name) ∨
        ∃ name t y, x = name :: y ∧ (name, t) ∈ entries ∧ t.isDir ∧ rule.enters name ∧ rule.Takes t y := by
  constructor
  · rintro ⟨above, name, content, rfl, hnames, hfind, htakes, henters⟩
    cases above with
    | nil =>
        obtain ⟨t, ht, hend⟩ := (h.find_cons_eq_ok hnames).mp hfind
        obtain rfl : t = .file content := Except.ok.inj hend
        exact .inl ⟨name, content, rfl, ht, htakes⟩
    | cons first above =>
        obtain ⟨t, ht, hend⟩ := (h.find_cons_eq_ok hnames).mp hfind
        obtain ⟨hfirst, habove⟩ := List.forall_mem_cons.mp henters
        refine .inr ⟨first, t, above ++ [name], rfl, ht, ?_, hfirst, above, name, content, rfl,
          fun n hn => hnames n (List.mem_cons_of_mem first hn), hend, htakes, habove⟩
        cases t with
        | file content => cases above <;> cases hend
        | dir entries => rfl
  · rintro (⟨name, content, rfl, hmem, htakes⟩ | ⟨name, t, y, rfl, hmem, -, henters, hy⟩)
    · have hnames : ∀ n ∈ [name], IsName n :=
        List.forall_mem_singleton.mpr ((wellFormed_dir.mp h).2 _ hmem).1.1
      exact ⟨[], name, content, rfl, hnames, (h.find_cons_eq_ok hnames).mpr ⟨_, hmem, rfl⟩, htakes, nofun⟩
    · obtain ⟨above, last, content, rfl, hnames, hfind, htakes, habove⟩ := hy
      have hnames : ∀ n ∈ name :: (above ++ [last]), IsName n :=
        List.forall_mem_cons.mpr ⟨((wellFormed_dir.mp h).2 _ hmem).1.1, hnames⟩
      exact ⟨name :: above, last, content, rfl, hnames, (h.find_cons_eq_ok hnames).mpr ⟨t, hmem, hfind⟩, htakes,
        List.forall_mem_cons.mpr ⟨henters, habove⟩⟩

theorem scanEntries_eq (rule : ScanRule) (entries : List (String × FileTree)) :
    scanEntries rule entries =
      (entries.filter fun e => e.2.isDir && rule.enters e.1).map fun e => (e.1, e.2.scan rule) := by
  induction entries with
  | nil => rfl
  | cons e rest ih =>
      obtain ⟨name, t⟩ := e
      rw [scanEntries, ih, List.filter_cons]
      split <;> rfl

theorem mem_takenFiles {name : String} :
    name ∈ takenFiles rule entries ↔ ∃ content, (name, .file content) ∈ entries ∧ rule.takes name := by
  simp only [takenFiles, List.mem_map, List.mem_filter, (sortedByName_perm entries).mem_iff, Bool.and_eq_true]
  constructor
  · rintro ⟨⟨name, t⟩, ⟨hmem, hfile, htakes⟩, rfl⟩
    cases t with
    | file content => exact ⟨content, hmem, htakes⟩
    | dir entries => cases hfile
  · rintro ⟨content, hmem, htakes⟩
    exact ⟨(name, .file content), ⟨hmem, rfl, htakes⟩, rfl⟩

/-- What a scan takes below the subdirectories, one by one. -/
theorem mem_flatMap_scanEntries :
    x ∈ (sortedByName (scanEntries rule entries)).flatMap (fun e => e.2.map fun p => e.1 :: p) ↔
      ∃ name t y, x = name :: y ∧ (name, t) ∈ entries ∧ t.isDir ∧ rule.enters name ∧ y ∈ t.scan rule := by
  simp only [List.mem_flatMap, (sortedByName_perm _).mem_iff, scanEntries_eq, List.mem_map, List.mem_filter,
    Bool.and_eq_true]
  constructor
  · rintro ⟨-, ⟨⟨name, t⟩, ⟨hmem, hdir, henters⟩, rfl⟩, y, hy, rfl⟩
    exact ⟨name, t, y, rfl, hmem, hdir, henters, hy⟩
  · rintro ⟨name, t, y, rfl, hmem, hdir, henters, hy⟩
    exact ⟨_, ⟨(name, t), ⟨hmem, hdir, henters⟩, rfl⟩, y, hy, rfl⟩

/-- **Which files a scan takes.** -/
theorem mem_scan {t : FileTree} (h : t.WellFormed) : x ∈ t.scan rule ↔ rule.Takes t x := by
  induction t using FileTree.induct generalizing x with
  | file content =>
      refine iff_of_false nofun ?_
      rintro ⟨above, name, content, rfl, -, hfind, -⟩
      cases above <;> cases hfind
  | dir entries ih =>
      have hbelow (name : String) (t : FileTree) (y : List String) (hmem : (name, t) ∈ entries) :
          y ∈ t.scan rule ↔ rule.Takes t y :=
        ih (name, t) hmem ((wellFormed_dir.mp h).2 _ hmem).2
      rw [takes_dir h, scan, List.mem_append, mem_flatMap_scanEntries, List.mem_map]
      refine or_congr ?_ ?_
      · simp only [mem_takenFiles]
        constructor
        · rintro ⟨name, ⟨content, hmem, htakes⟩, rfl⟩
          exact ⟨name, content, rfl, hmem, htakes⟩
        · rintro ⟨name, content, rfl, hmem, htakes⟩
          exact ⟨name, ⟨content, hmem, htakes⟩, rfl⟩
      · refine exists_congr fun name => exists_congr fun t => exists_congr fun y => and_congr_right fun _ => ?_
        exact and_congr_right fun hmem => and_congr_right fun _ => and_congr_right fun _ => hbelow name t y hmem

theorem ne_nil_of_mem_scan {t : FileTree} (h : t.WellFormed) (hx : x ∈ t.scan rule) : x ≠ [] := by
  obtain ⟨above, name, -, rfl, -⟩ := (mem_scan h).mp hx
  simp

/-- **In which order a scan takes files.** -/
theorem pairwise_scan (rule : ScanRule) {t : FileTree} (h : t.WellFormed) :
    (t.scan rule).Pairwise ScansBefore := by
  induction t using FileTree.induct with
  | file content => exact .nil
  | dir entries ih =>
      obtain ⟨hnodup, hentries⟩ := wellFormed_dir.mp h
      have hscanned : ∀ e ∈ sortedByName (scanEntries rule entries),
          ∃ t, (e.1, t) ∈ entries ∧ e.2 = t.scan rule := by
        intro e he
        rw [(sortedByName_perm _).mem_iff, scanEntries_eq] at he
        obtain ⟨⟨name, t⟩, hmem, rfl⟩ := List.mem_map.mp he
        exact ⟨t, List.mem_of_mem_filter hmem, rfl⟩
      have hnodup' : ((scanEntries rule entries).map Prod.fst).Nodup := by
        rw [scanEntries_eq, List.map_map]
        exact hnodup.sublist (List.filter_sublist.map Prod.fst)
      have hne : ∀ e ∈ sortedByName (scanEntries rule entries), ∀ p ∈ e.2, p ≠ [] := by
        intro e he p hp
        obtain ⟨t, hmem, hbelow⟩ := hscanned e he
        exact ne_nil_of_mem_scan (hentries _ hmem).2 (hbelow ▸ hp)
      rw [scan, List.pairwise_append, takenFiles, List.map_map, List.pairwise_map, List.pairwise_flatMap]
      refine ⟨((pairwise_sortedByName hnodup).filter _).imp .files, ⟨fun e he => ?_, ?_⟩, ?_⟩
      · obtain ⟨t, hmem, hbelow⟩ := hscanned e he
        rw [hbelow, List.pairwise_map]
        exact (ih _ hmem (hentries _ hmem).2).imp (.inside e.1)
      · refine (pairwise_sortedByName hnodup').imp_of_mem fun he he' hlt => ?_
        simp only [List.forall_mem_map]
        exact fun p hp q hq => .directories hlt (hne _ he p hp) (hne _ he' q hq)
      · simp only [List.forall_mem_map, List.mem_flatMap]
        rintro file - x ⟨e, he, hx⟩
        obtain ⟨p, hp, rfl⟩ := List.mem_map.mp hx
        exact .fileFirst _ _ (hne e he p hp)

end FileTree

/-! ## Scans of a site -/

namespace Site

variable {s s' : Site} {rule : ScanRule} {d : FilePath}

/-- Names below a directory lead where they lead from it. -/
theorem find_below_of_names {x : List String} (hx : ∀ n ∈ x, IsName n) :
    s.find (d.below x) = s.find d >>= fun t => t.find x := by
  have hsegments : s.segments (d.below x) = s.segments d ++ x := by
    rw [segments, segments, FilePath.join, FilePath.join]
    by_cases habsolute : d.isAbsolute
    · have hbelow : (d.below x).isAbsolute := habsolute
      rw [if_pos hbelow, if_pos habsolute]
      rfl
    · have hbelow : ¬ (d.below x).isAbsolute := habsolute
      rw [if_neg hbelow, if_neg habsolute]
      exact (List.append_assoc _ _ _).symm
  rw [find, find, hsegments]
  exact s.tree.find_append_names _ hx

theorem isFile_iff {p : FilePath} : s.isFile p ↔ ∃ content, s.find p = .ok (.file content) := by
  rw [isFile]
  split
  · next content hfind => simp [hfind]
  · next hnone => simpa using hnone

/-- Segments below a directory are what a scan of it takes: each file with one of the extensions, if no
directory on the way to it has an excluded name, once and in the order of a scan. -/
structure Scanned (s : Site) (rule : ScanRule) (d : FilePath) (xs : List (List String)) : Prop where
  nodup : xs.Nodup
  order : xs.Pairwise ScansBefore
  mem_iff : ∀ x, x ∈ xs ↔ ∃ above name, x = above ++ [name] ∧ (∀ n ∈ x, IsName n) ∧ s.isFile (d.below x) ∧
    Text.lower (FilePath.suffixOf name) ∈ rule.extensions ∧
      ∀ n ∈ above, ∀ excluded ∈ rule.excluded, Text.lower n ≠ Text.lower excluded

/-- What is taken in a scan is known from the files that are found. -/
theorem Scanned.eq_of_isFile {xs ys : List (List String)} (h : s.Scanned rule d xs) (h' : s'.Scanned rule d ys)
    (hfile : ∀ p, s'.isFile p = s.isFile p) : ys = xs := by
  have hmem (x : List String) : x ∈ ys ↔ x ∈ xs := by
    rw [h.mem_iff, h'.mem_iff]
    simp only [hfile]
  have hperm : ys.Perm xs := (List.perm_ext_iff_of_nodup h'.nodup h.nodup).mpr hmem
  exact hperm.eq_of_pairwise (fun _ _ _ _ hxy hyx => absurd hyx hxy.asymm) h'.order h.order

/-- **What a scan of a directory takes.** -/
theorem scanned_scan (hs : s.tree.WellFormed) (rule : ScanRule) (d : FilePath) :
    ∃ xs, s.scan rule d = xs.map d.below ∧ s.Scanned rule d xs := by
  have hfile {x : List String} (hx : ∀ n ∈ x, IsName n) :
      s.isFile (d.below x) ↔ ∃ content, (s.find d >>= fun t => t.find x) = .ok (.file content) := by
    rw [isFile_iff, find_below_of_names hx]
  rw [scan]
  cases hfind : s.find d with
  | error e =>
      refine ⟨[], rfl, List.nodup_nil, .nil, fun x => iff_of_false nofun ?_⟩
      rintro ⟨above, name, -, hx, hisFile, -⟩
      obtain ⟨content, hcontent⟩ := (hfile hx).mp hisFile
      rw [hfind] at hcontent
      cases hcontent
  | ok t =>
      have ht : t.WellFormed := hs.of_find hfind
      have horder := FileTree.pairwise_scan rule ht
      refine ⟨t.scan rule, rfl, horder.imp fun hxy heq => (heq ▸ hxy.asymm) (heq ▸ hxy), horder, fun x => ?_⟩
      rw [hfind] at hfile
      rw [FileTree.mem_scan ht, ScanRule.Takes]
      refine exists_congr fun above => exists_congr fun name => ?_
      constructor
      · rintro ⟨content, hx, hnames, hcontent, htakes, henters⟩
        exact ⟨hx, hnames, (hfile hnames).mpr ⟨content, hcontent⟩, rule.takes_iff.mp htakes,
          fun n hn => rule.enters_iff.mp (henters n hn)⟩
      · rintro ⟨hx, hnames, hisFile, htakes, henters⟩
        obtain ⟨content, hcontent⟩ := (hfile hnames).mp hisFile
        exact ⟨content, hx, hnames, hcontent, rule.takes_iff.mpr htakes,
          fun n hn => rule.enters_iff.mpr (henters n hn)⟩

/-- Which paths a scan of a directory takes. -/
theorem mem_scan (hs : s.tree.WellFormed) {p : FilePath} :
    p ∈ s.scan rule d ↔ ∃ x, p = d.below x ∧
      ∃ above name, x = above ++ [name] ∧ (∀ n ∈ x, IsName n) ∧ s.isFile (d.below x) ∧
        Text.lower (FilePath.suffixOf name) ∈ rule.extensions ∧
          ∀ n ∈ above, ∀ excluded ∈ rule.excluded, Text.lower n ≠ Text.lower excluded := by
  obtain ⟨xs, hscan, hscanned⟩ := scanned_scan hs rule d
  rw [hscan, List.mem_map]
  refine exists_congr fun x => ?_
  rw [hscanned.mem_iff, and_comm, eq_comm]

/-- **A scan does not depend on listings.** -/
theorem Relisted.scan_eq (h : s.Relisted s') (hs : s.Sound) (rule : ScanRule) (d : FilePath) :
    s'.scan rule d = s.scan rule d := by
  obtain ⟨xs, hscan, hxs⟩ := scanned_scan hs.tree rule d
  obtain ⟨ys, hscan', hys⟩ := scanned_scan (h.sound hs).tree rule d
  rw [hscan, hscan', hxs.eq_of_isFile hys (h.isFile_eq hs)]

end Site

end SolutionSurvey
