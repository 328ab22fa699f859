import SolutionSurvey.Files.Glob
import SolutionSurvey.Proofs.Files.Alike
import SolutionSurvey.Proofs.Files.Place
import Mathlib.Data.List.TakeWhile

/-!
# Copies of a directory

Two directories that hold the same tree give the same answers, up to their own paths: what is found below
them, what a scan takes, and what patterns stand for that do not lead out of them, as long as their own
names are no patterns.

## Main definitions

* `Site.Holds` — a directory that holds some entries.
* `Stays` — segments that do not lead out of a directory, and lead to a depth; `InsideFrom` — patterns
  that do so whatever they stand for.
* `Site.Holds.find_below`, `Site.Holds.normalize_below` — what paths below a directory lead to, and their
  normal form.
* `Site.Holds.alike_expandFiles`, `Site.Holds.alike_scan` — patterns and scans in two copies.
-/

namespace SolutionSurvey

/-- A directory at a normal absolute path, with its entries. -/
structure Site.Holds (s : Site) (directory : FilePath) (entries : List (String × FileTree)) : Prop where
  absolute : directory.isAbsolute
  names : ∀ n ∈ directory.segments, IsName n
  noNull : ∀ n ∈ directory.segments, FilePath.holdsNull n = false
  found : s.tree.find directory.segments = .ok (.dir entries)

/-- Segments that never lead above where they start, and end at a depth or deeper. -/
structure Stays (depth : ℕ) (segments : List String) : Prop where
  plain : ∀ n ∈ segments, n ≠ "" ∧ n ≠ "."
  climbs : ∃ k, climb 0 segments = some k ∧ depth ≤ k

namespace Stays

variable {depth : ℕ} {x : List String}

theorem nil : Stays 0 [] :=
  ⟨nofun, 0, rfl, Nat.le_refl 0⟩

theorem isSome (h : Stays depth x) : (climb 0 x).isSome := by
  obtain ⟨k, hk, -⟩ := h.climbs
  simp [hk]

theorem mono {depth' : ℕ} (h : Stays depth x) (hle : depth' ≤ depth) : Stays depth' x := by
  obtain ⟨k, hk, hdepth⟩ := h.climbs
  exact ⟨h.plain, k, hk, Nat.le_trans hle hdepth⟩

/-- More names lead deeper. -/
theorem append_names (h : Stays depth x) {names : List String} (hnames : ∀ n ∈ names, IsName n) :
    Stays (depth + names.length) (x ++ names) := by
  obtain ⟨k, hk, hdepth⟩ := h.climbs
  refine ⟨List.forall_mem_append.mpr ⟨h.plain, fun n hn => ⟨(hnames n hn).1, (hnames n hn).2.1⟩⟩,
    k + names.length, ?_, by omega⟩
  rw [climb_append, hk, Option.bind_some, climb_of_names hnames]

theorem append_segment (h : Stays depth x) {segment : String} (hsegment : segment ≠ "" ∧ segment ≠ ".")
    (hup : segment ≠ "..") : Stays (depth + 1) (x ++ [segment]) := by
  have hname : ∀ n ∈ [segment], IsName n := by
    simpa using ⟨hsegment.1, hsegment.2, hup⟩
  exact h.append_names hname

theorem append_up (h : Stays (depth + 1) x) : Stays depth (x ++ [".."]) := by
  obtain ⟨k, hk, hdepth⟩ := h.climbs
  refine ⟨List.forall_mem_append.mpr ⟨h.plain, by simp⟩, k - 1, ?_, by omega⟩
  rw [climb_append, hk, Option.bind_some, climb, if_pos rfl, if_neg (by omega), climb]

end Stays

/-- Segments of a pattern that do not lead above a depth, whatever they stand for: two stars may stand for
no directory at all. -/
def InsideFrom (depth : ℕ) (segments : List String) : Prop :=
  (climb depth (segments.filter fun segment => segment != anyDepth)).isSome

instance (depth : ℕ) (segments : List String) : Decidable (InsideFrom depth segments) :=
  inferInstanceAs (Decidable (_ = true))

theorem insideFrom_anyDepth {depth : ℕ} {rest : List String} :
    InsideFrom depth (anyDepth :: rest) ↔ InsideFrom depth rest := by
  simp [InsideFrom]

theorem insideFrom_up {depth : ℕ} {rest : List String} :
    InsideFrom depth (".." :: rest) ↔ depth ≠ 0 ∧ InsideFrom (depth - 1) rest := by
  have hup : ".." ≠ anyDepth := by decide
  by_cases hdepth : depth = 0 <;> simp [InsideFrom, hup, climb, hdepth]

theorem insideFrom_cons {depth : ℕ} {segment : String} {rest : List String} (hany : segment ≠ anyDepth)
    (hup : segment ≠ "..") : InsideFrom depth (segment :: rest) ↔ InsideFrom (depth + 1) rest := by
  simp [InsideFrom, hany, climb, hup]

/-- The segments before the first pattern do not lead out, nor do the others from there on. -/
theorem InsideFrom.after_plain {depth : ℕ} {segments : List String} (h : InsideFrom depth segments) :
    ∃ k, climb depth (segments.takeWhile fun n => !Wild.isPattern n) = some k ∧
      InsideFrom k (segments.dropWhile fun n => !Wild.isPattern n) := by
  have hplain : (segments.takeWhile fun n => !Wild.isPattern n).filter (fun n => n != anyDepth) =
      segments.takeWhile fun n => !Wild.isPattern n := by
    refine List.filter_eq_self.mpr fun n hn => ?_
    have hnone := List.mem_takeWhile_imp hn
    simp only [bne_iff_ne]
    rintro rfl
    exact absurd hnone (by decide)
  rw [InsideFrom, ← List.takeWhile_append_dropWhile (p := fun n => !Wild.isPattern n) (l := segments),
    List.filter_append, climb_append, hplain] at h
  obtain ⟨k, hk⟩ := Option.isSome_iff_exists.mp (Option.isSome_of_isSome_bind h)
  refine ⟨k, hk, ?_⟩
  rw [hk] at h
  exact h

/-! ## What is found in two copies -/

namespace Site.Holds

variable {s s' : Site} {d d' : FilePath} {entries : List (String × FileTree)} {x : List String} {k : ℕ}

/-- What is found below a directory is what is found in its tree. -/
theorem find_below (h : s.Holds d entries) (hx : Stays k x) :
    s.find (d.below x) = (FileTree.dir entries).find x := by
  have habsolute : (d.below x).isAbsolute := h.absolute
  rw [Site.find, Site.segments, FilePath.join, if_pos habsolute]
  exact FileTree.find_below h.found hx.isSome fun n hn => (hx.plain n hn).2

theorem find_self (h : s.Holds d entries) : s.find d = .ok (.dir entries) := by
  have hfound := h.find_below Stays.nil
  rw [FilePath.below_nil] at hfound
  exact hfound

theorem normalize_below (h : s.Holds d entries) (hx : Stays k x) :
    s.normalize (d.below x) = d.below (FilePath.resolveDots x) := by
  have habsolute : (d.below x).isAbsolute := h.absolute
  rw [Site.normalize, FilePath.normalize, FilePath.join, if_pos habsolute]
  simp only [FilePath.below, resolveDots_below h.names hx.isSome hx.plain]

theorem find_eq (h : s.Holds d entries) (h' : s'.Holds d' entries) (hx : Stays k x) :
    s.find (d.below x) = s'.find (d'.below x) :=
  (h.find_below hx).trans (h'.find_below hx).symm

theorem reach_eq (h : s.Holds d entries) (h' : s'.Holds d' entries) (hx : Stays k x) :
    s.reach (d.below x) = s'.reach (d'.below x) := by
  rw [reach, reach, h.find_eq h' hx]

/-- What a path below a proper directory leads to is proper. -/
theorem proper_reach (h : s.Holds d entries) (hproper : (FileTree.dir entries).Proper) (hx : Stays k x) :
    (s.reach (d.below x)).Proper := by
  rw [reach, h.find_below hx]
  cases hfound : (FileTree.dir entries).find x with
  | error e => exact trivial
  | ok t => exact hproper.of_find hfound

end Site.Holds

/-! ## Names in proper trees -/

namespace FileTree

mutual

/-- Whatever is visible below a proper tree stands there under names. -/
theorem Proper.visible_names {t : FileTree} (h : t.Proper) :
    ∀ e ∈ t.visible, ∀ n ∈ e.1, IsName n :=
  match t with
  | .file _ => nofun
  | .dir _ => visibleEntries_names h

theorem visibleEntries_names {entries : List (String × FileTree)} (h : ProperEntries entries) :
    ∀ e ∈ visibleEntries entries, ∀ n ∈ e.1, IsName n :=
  match entries with
  | [] => nofun
  | (name, t) :: rest => by
      obtain ⟨hname, ht, hrest⟩ := h
      have hbelow := ht.visible_names
      refine List.forall_mem_append.mpr ⟨?_, visibleEntries_names hrest⟩
      split
      · exact nofun
      · refine List.forall_mem_cons.mpr ⟨by simpa using hname, ?_⟩
        rw [List.forall_mem_map]
        exact fun e he => List.forall_mem_cons.mpr ⟨hname, hbelow e he⟩

end

theorem takenFiles_names (rule : ScanRule) {entries : List (String × FileTree)}
    (h : ProperEntries entries) : ∀ n ∈ takenFiles rule entries, IsName n := by
  rw [takenFiles, List.forall_mem_map]
  intro e he
  exact (properEntries_iff.mp h e (List.mem_mergeSort.mp (List.mem_of_mem_filter he))).1

mutual

/-- Whatever a scan takes below a proper tree stands there under names. -/
theorem Proper.scan_names (rule : ScanRule) {t : FileTree} (h : t.Proper) :
    ∀ x ∈ t.scan rule, ∀ n ∈ x, IsName n :=
  match t with
  | .file _ => nofun
  | .dir entries => by
      have hbelow := scanEntries_names rule h
      rw [scan]
      refine List.forall_mem_append.mpr ⟨?_, fun x hx => ?_⟩
      · rw [List.forall_mem_map]
        exact fun n hn => by simpa using takenFiles_names rule h n hn
      · obtain ⟨e, he, hx⟩ := List.mem_flatMap.mp hx
        obtain ⟨y, hy, rfl⟩ := List.mem_map.mp hx
        obtain ⟨hname, hnames⟩ := hbelow e (List.mem_mergeSort.mp he)
        exact List.forall_mem_cons.mpr ⟨hname, hnames y hy⟩

theorem scanEntries_names (rule : ScanRule) {entries : List (String × FileTree)}
    (h : ProperEntries entries) :
    ∀ e ∈ scanEntries rule entries, IsName e.1 ∧ ∀ x ∈ e.2, ∀ n ∈ x, IsName n :=
  match entries with
  | [] => nofun
  | (name, t) :: rest => by
      obtain ⟨hname, ht, hrest⟩ := h
      have hbelow := ht.scan_names rule
      have hothers := scanEntries_names rule hrest
      rw [scanEntries]
      split
      · exact List.forall_mem_cons.mpr ⟨⟨hname, hbelow⟩, hothers⟩
      · exact hothers

end

end FileTree

/-! ## Patterns and scans in two copies -/

namespace Site.Holds

variable {s s' : Site} {d d' : FilePath} {entries : List (String × FileTree)} {depth : ℕ}

/-- **A scan takes alike** in two copies. -/
theorem alike_scan (h : s.Holds d entries) (h' : s'.Holds d' entries)
    (hproper : (FileTree.dir entries).Proper) (rule : ScanRule) :
    Alike d d' (Stays 0) (s.scan rule d) (s'.scan rule d') := by
  rw [Site.scan, Site.scan, h.find_self, h'.find_self]
  refine Alike.map_below fun x hx => ?_
  have hnames := hproper.scan_names rule x hx
  exact (Stays.nil.append_names hnames).mono (Nat.zero_le _)

/-- Two stars lead alike to any depth. -/
theorem alike_steps_anyDepth (h : s.Holds d entries) (h' : s'.Holds d' entries)
    (hproper : (FileTree.dir entries).Proper) (more : Bool) {x : List String} (hx : Stays depth x) :
    Alike d d' (Stays depth) (s.steps more anyDepth (d.below x))
      (s'.steps more anyDepth (d'.below x)) := by
  rw [steps, steps, if_pos rfl, if_pos rfl, ← h.reach_eq h' hx]
  refine Alike.append ?_ ?_
  · cases more with
    | true => exact Alike.single hx
    | false => exact Alike.nil
  · have hnames := (h.proper_reach hproper hx).visible_names
    simp only [FilePath.below, List.append_assoc]
    refine Alike.map_below fun e he => ?_
    exact (hx.append_names (hnames e (List.mem_of_mem_filter he))).mono (Nat.le_add_right _ _)

/-- A pattern of names leads alike to them. -/
theorem alike_steps_pattern (h : s.Holds d entries) (h' : s'.Holds d' entries)
    (hproper : (FileTree.dir entries).Proper) (more : Bool) {segment : String}
    (hdepth : segment ≠ anyDepth) (hpattern : Wild.isPattern segment) {x : List String}
    (hx : Stays depth x) :
    Alike d d' (Stays (depth + 1)) (s.steps more segment (d.below x))
      (s'.steps more segment (d'.below x)) := by
  rw [steps, steps, if_neg hdepth, if_neg hdepth, if_pos hpattern, if_pos hpattern, ← h.reach_eq h' hx]
  simp only [FilePath.below, FilePath.child, List.append_assoc]
  refine Alike.map_below fun e he => ?_
  have hname := ((h.proper_reach hproper hx).entries e (List.mem_of_mem_filter he)).1
  exact hx.append_segment ⟨hname.1, hname.2.1⟩ hname.2.2

/-- A plain segment leads alike to where it stands for. -/
theorem alike_steps_plain (h : s.Holds d entries) (h' : s'.Holds d' entries) (more : Bool)
    {segment : String} (hplain : Wild.isPattern segment = false) {x : List String}
    (hx : Stays depth (x ++ [segment])) :
    Alike d d' (Stays depth) (s.steps more segment (d.below x)) (s'.steps more segment (d'.below x)) := by
  have hdepth : segment ≠ anyDepth := by
    rintro rfl
    exact absurd hplain (by decide)
  have hchild : ∀ d : FilePath, (d.below x).child segment = d.below (x ++ [segment]) := fun d => by
    simp [FilePath.below, FilePath.child]
  have hexists : s.pathExists (d.below (x ++ [segment])) = s'.pathExists (d'.below (x ++ [segment])) := by
    rw [pathExists, pathExists, h.find_eq h' hx]
  simp only [steps, if_neg hdepth, hplain, Bool.false_eq_true, if_false, hchild, ← hexists]
  split
  · exact Alike.single hx
  · exact Alike.nil

/-- **One segment of a pattern leads alike** in two copies, and the segments after it still do not lead
out of the directory. -/
theorem alike_steps (h : s.Holds d entries) (h' : s'.Holds d' entries)
    (hproper : (FileTree.dir entries).Proper) (more : Bool) {segment : String} {rest : List String}
    (hsegment : segment ≠ "" ∧ segment ≠ ".") (hinside : InsideFrom depth (segment :: rest)) :
    ∃ depth', InsideFrom depth' rest ∧ ∀ x, Stays depth x →
      Alike d d' (Stays depth') (s.steps more segment (d.below x))
        (s'.steps more segment (d'.below x)) := by
  by_cases hany : segment = anyDepth
  · subst hany
    exact ⟨depth, insideFrom_anyDepth.mp hinside, fun x hx =>
      h.alike_steps_anyDepth h' hproper more hx⟩
  · by_cases hup : segment = ".."
    · subst hup
      obtain ⟨hdepth, hinside⟩ := insideFrom_up.mp hinside
      obtain ⟨depth, rfl⟩ := Nat.exists_eq_succ_of_ne_zero hdepth
      exact ⟨depth, hinside, fun x hx => h.alike_steps_plain h' more (by decide) hx.append_up⟩
    · refine ⟨depth + 1, (insideFrom_cons hany hup).mp hinside, fun x hx => ?_⟩
      cases hpattern : Wild.isPattern segment with
      | true => exact h.alike_steps_pattern h' hproper more hany hpattern hx
      | false => exact h.alike_steps_plain h' more hpattern (hx.append_segment hsegment hup)

/-- **The segments of a pattern lead alike** from alike places. -/
theorem alike_expandFrom (h : s.Holds d entries) (h' : s'.Holds d' entries)
    (hproper : (FileTree.dir entries).Proper) {segments : List String}
    (hsegments : ∀ n ∈ segments, n ≠ "" ∧ n ≠ ".") (hinside : InsideFrom depth segments)
    {ps qs : List FilePath} (hbases : Alike d d' (Stays depth) ps qs) :
    Alike d d' (Stays 0) (s.expandFrom ps segments) (s'.expandFrom qs segments) := by
  induction segments generalizing depth ps qs with
  | nil => exact hbases.mono fun x hx => hx.mono (Nat.zero_le _)
  | cons segment rest ih =>
      obtain ⟨hsegment, hrest⟩ := List.forall_mem_cons.mp hsegments
      obtain ⟨depth', hinside', hsteps⟩ := h.alike_steps h' hproper (!rest.isEmpty) hsegment hinside
      exact ih hrest hinside' (hbases.flatMap hsteps)

/-- What a pattern below a directory stands for, when no name of the directory is a pattern itself: the
directory and the plain segments that come first are taken as they are. -/
theorem expand_below {segments : List String} (hplain : ∀ n ∈ d.segments, Wild.isPattern n = false) :
    s.expand (d.below segments) =
      s.expandFrom [d.below (segments.takeWhile fun n => !Wild.isPattern n)]
        (segments.dropWhile fun n => !Wild.isPattern n) := by
  have htake : (d.segments ++ segments).takeWhile (fun n => !Wild.isPattern n) =
      d.segments ++ segments.takeWhile fun n => !Wild.isPattern n :=
    List.takeWhile_append_of_pos fun n hn => by simp [hplain n hn]
  have hdrop : segments.drop (segments.takeWhile fun n => !Wild.isPattern n).length =
      segments.dropWhile fun n => !Wild.isPattern n := by
    have hleft (plain rest : List String) : (plain ++ rest).drop plain.length = rest := List.drop_left
    have hsplit := hleft (segments.takeWhile fun n => !Wild.isPattern n)
      (segments.dropWhile fun n => !Wild.isPattern n)
    rwa [List.takeWhile_append_dropWhile] at hsplit
  simp only [expand, FilePath.below, htake, List.length_append, List.drop_length_add_append, hdrop]

/-- **Patterns that do not lead out of a directory stand for alike paths** in two copies, when no name of
the directories is a pattern itself. -/
theorem alike_expand (h : s.Holds d entries) (h' : s'.Holds d' entries)
    (hproper : (FileTree.dir entries).Proper) (hplain : ∀ n ∈ d.segments, Wild.isPattern n = false)
    (hplain' : ∀ n ∈ d'.segments, Wild.isPattern n = false) {segments : List String}
    (hsegments : ∀ n ∈ segments, n ≠ "" ∧ n ≠ ".") (hinside : InsideFrom 0 segments) :
    Alike d d' (Stays 0) (s.expand (d.below segments)) (s'.expand (d'.below segments)) := by
  obtain ⟨k, hk, hrest⟩ := hinside.after_plain
  rw [expand_below hplain, expand_below hplain']
  refine h.alike_expandFrom h' hproper (fun n hn => hsegments n (List.dropWhile_subset _ hn)) hrest
    (Alike.single ⟨fun n hn => hsegments n (List.takeWhile_subset _ hn), k, hk, Nat.le_refl k⟩)

/-- The same for the files among these paths, in their order. -/
theorem alike_expandFiles (h : s.Holds d entries) (h' : s'.Holds d' entries)
    (hproper : (FileTree.dir entries).Proper) (hplain : ∀ n ∈ d.segments, Wild.isPattern n = false)
    (hplain' : ∀ n ∈ d'.segments, Wild.isPattern n = false) {segments : List String}
    (hsegments : ∀ n ∈ segments, n ≠ "" ∧ n ≠ ".") (hinside : InsideFrom 0 segments) :
    Alike d d' (Stays 0) (s.expandFiles (d.below segments)) (s'.expandFiles (d'.below segments)) := by
  have hfiles : Alike d d' (fun x => Stays 0 x ∧ x ≠ [])
      ((s.expand (d.below segments)).filter s.isFile)
      ((s'.expand (d'.below segments)).filter s'.isFile) := by
    refine (h.alike_expand h' hproper hplain hplain' hsegments hinside).filter (fun x hx => ?_)
      fun x hx hfile => ⟨hx, ?_⟩
    · rw [isFile, isFile, h.find_eq h' hx]
    · rintro rfl
      rw [FilePath.below_nil, isFile, h.find_self] at hfile
      exact absurd hfile (by simp)
  exact (hfiles.mergeSort h.absolute h'.absolute fun x hx => hx.2).mono fun x hx => hx.1

end Site.Holds

end SolutionSurvey
