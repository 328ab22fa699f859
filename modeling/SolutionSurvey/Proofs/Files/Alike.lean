import SolutionSurvey.Files.Path
import Mathlib.Data.List.Basic

/-!
# Paths below two directories

Lists of paths that are the same below two directories, segment by segment. What is done to both lists,
path by path, keeps them so, and so does sorting by the texts: these start alike below each directory.

## Main definitions

* `FilePath.below` — the path that some segments lead to from a directory.
* `Alike` — two lists of paths are the same below two directories.
* `Alike.eraseDups`, `Alike.filter_not_contains`, `Alike.mergeSort` — what keeps them so.
* `Alike.map_relativeTo?` — they are the same seen from the directories.
-/

namespace SolutionSurvey

/-- The path that some segments lead to from a directory. -/
def FilePath.below (directory : FilePath) (segments : List String) : FilePath :=
  { directory with segments := directory.segments ++ segments }

theorem FilePath.below_nil (directory : FilePath) : directory.below [] = directory := by
  simp [FilePath.below]

/-! ## Lists of paths below two directories -/

variable {d d' : FilePath}

/-- Two lists of paths are the same below two directories, with segments of a kind. -/
def Alike (d d' : FilePath) (p : List String → Prop) (ps qs : List FilePath) : Prop :=
  ∃ xs : List (List String), (∀ x ∈ xs, p x) ∧ ps = xs.map d.below ∧ qs = xs.map d'.below

namespace Alike

variable {p q : List String → Prop} {ps qs rs ts : List FilePath}

theorem nil : Alike d d' p [] [] :=
  ⟨[], nofun, rfl, rfl⟩

theorem single {x : List String} (hx : p x) : Alike d d' p [d.below x] [d'.below x] :=
  ⟨[x], by simpa using hx, rfl, rfl⟩

theorem map_below {α : Type} {l : List α} {f : α → List String} (h : ∀ a ∈ l, p (f a)) :
    Alike d d' p (l.map fun a => d.below (f a)) (l.map fun a => d'.below (f a)) :=
  ⟨l.map f, by simpa using h, by simp [Function.comp_def], by simp [Function.comp_def]⟩

theorem mono (h : Alike d d' p ps qs) (hpq : ∀ x, p x → q x) : Alike d d' q ps qs := by
  obtain ⟨xs, hxs, rfl, rfl⟩ := h
  exact ⟨xs, fun x hx => hpq x (hxs x hx), rfl, rfl⟩

theorem append (h : Alike d d' p ps qs) (h' : Alike d d' p rs ts) :
    Alike d d' p (ps ++ rs) (qs ++ ts) := by
  obtain ⟨xs, hxs, rfl, rfl⟩ := h
  obtain ⟨ys, hys, rfl, rfl⟩ := h'
  exact ⟨xs ++ ys, List.forall_mem_append.mpr ⟨hxs, hys⟩, List.map_append.symm,
    List.map_append.symm⟩

theorem isAbsolute_left (h : Alike d d' p ps qs) (hd : d.isAbsolute) : ∀ x ∈ ps, x.isAbsolute := by
  obtain ⟨xs, -, rfl, -⟩ := h
  exact List.forall_mem_map.mpr fun _ _ => hd

theorem isAbsolute_right (h : Alike d d' p ps qs) (hd' : d'.isAbsolute) : ∀ x ∈ qs, x.isAbsolute := by
  obtain ⟨xs, -, -, rfl⟩ := h
  exact List.forall_mem_map.mpr fun _ _ => hd'

/-- The same for each item of a list. -/
theorem flatMap_items {α : Type} {l : List α} {f g : α → List FilePath}
    (h : ∀ a ∈ l, Alike d d' p (f a) (g a)) : Alike d d' p (l.flatMap f) (l.flatMap g) := by
  induction l with
  | nil => exact nil
  | cons a rest ih =>
      obtain ⟨hfirst, hrest⟩ := List.forall_mem_cons.mp h
      rw [List.flatMap_cons, List.flatMap_cons]
      exact hfirst.append (ih hrest)

theorem flatMap (h : Alike d d' p ps qs) {f g : FilePath → List FilePath}
    (hfg : ∀ x, p x → Alike d d' q (f (d.below x)) (g (d'.below x))) :
    Alike d d' q (ps.flatMap f) (qs.flatMap g) := by
  obtain ⟨xs, hxs, rfl, rfl⟩ := h
  rw [List.flatMap_map, List.flatMap_map]
  exact flatMap_items fun x hx => hfg x (hxs x hx)

theorem map (h : Alike d d' p ps qs) {f g : FilePath → FilePath} {move : List String → List String}
    (hf : ∀ x, p x → f (d.below x) = d.below (move x))
    (hg : ∀ x, p x → g (d'.below x) = d'.below (move x)) :
    Alike d d' (fun _ => True) (ps.map f) (qs.map g) := by
  obtain ⟨xs, hxs, rfl, rfl⟩ := h
  refine ⟨xs.map move, fun _ _ => trivial, ?_, ?_⟩
  · rw [List.map_map, List.map_map]
    exact List.map_congr_left fun x hx => hf x (hxs x hx)
  · rw [List.map_map, List.map_map]
    exact List.map_congr_left fun x hx => hg x (hxs x hx)

theorem filter (h : Alike d d' p ps qs) {f g : FilePath → Bool}
    (hfg : ∀ x, p x → f (d.below x) = g (d'.below x)) (hq : ∀ x, p x → f (d.below x) → q x) :
    Alike d d' q (ps.filter f) (qs.filter g) := by
  obtain ⟨xs, hxs, rfl, rfl⟩ := h
  refine ⟨xs.filter fun x => f (d.below x), fun x hx => ?_, ?_, ?_⟩
  · obtain ⟨hmem, hfx⟩ := List.mem_filter.mp hx
    exact hq x (hxs x hmem) hfx
  · rw [List.filter_map]
    rfl
  · rw [List.filter_map]
    congr 1
    exact List.filter_congr fun x hx => (hfg x (hxs x hx)).symm

theorem below_inj {x y : List String} : d.below x = d.below y ↔ x = y := by
  simp [FilePath.below]

theorem map_eraseDups : ∀ xs : List (List String),
    (xs.map d.below).eraseDups = xs.eraseDups.map d.below
  | [] => rfl
  | x :: rest => by
      have hfilter : (rest.map d.below).filter (fun y => !y == d.below x) =
          (rest.filter fun y => !y == x).map d.below := by
        rw [List.filter_map]
        congr 1
        exact List.filter_congr fun y _ => by simp [below_inj]
      rw [List.map_cons, List.eraseDups_cons, List.eraseDups_cons, List.map_cons, hfilter,
        map_eraseDups (rest.filter fun y => !y == x)]
termination_by xs => xs.length
decreasing_by exact Nat.lt_succ_of_le (List.length_filter_le _ _)

theorem eraseDups (h : Alike d d' p ps qs) : Alike d d' p ps.eraseDups qs.eraseDups := by
  obtain ⟨xs, hxs, rfl, rfl⟩ := h
  exact ⟨xs.eraseDups, fun x hx => hxs x (List.mem_eraseDups.mp hx), map_eraseDups xs, map_eraseDups xs⟩

/-- What is in neither of two more lists. -/
theorem filter_not_contains (h : Alike d d' p ps qs) (h' : Alike d d' q rs ts) :
    Alike d d' p (ps.filter fun x => !rs.contains x) (qs.filter fun x => !ts.contains x) := by
  obtain ⟨ys, -, rfl, rfl⟩ := h'
  refine h.filter (fun x _ => ?_) fun x hx _ => hx
  simp [List.mem_map, below_inj]

theorem relativeTo?_below (x : List String) : (d.below x).relativeTo? d = some ⟨0, x⟩ := by
  simp [FilePath.relativeTo?, FilePath.below]

/-- Paths below two directories are the same seen from these. -/
theorem map_relativeTo? (h : Alike d d' p ps qs) :
    ps.map (fun x => x.relativeTo? d) = qs.map fun x => x.relativeTo? d' := by
  obtain ⟨xs, -, rfl, rfl⟩ := h
  simp [Function.comp_def, relativeTo?_below]

theorem none_notMem_map_relativeTo? (h : Alike d d' p ps qs) :
    none ∉ ps.map fun x => x.relativeTo? d := by
  obtain ⟨xs, -, rfl, -⟩ := h
  simp [relativeTo?_below]

end Alike

/-! ## The order of the texts -/

/-- What two texts start with alike does not count for their order. -/
theorem append_le_append_iff {lead a b : String} : lead ++ a ≤ lead ++ b ↔ a ≤ b := by
  have hchars : ∀ lead a b : List Char, lead ++ a < lead ++ b ↔ a < b := by
    intro lead a b
    induction lead with
    | nil => rfl
    | cons c rest ih => simp [ih]
  rw [← String.not_lt, ← String.not_lt, String.lt_iff, String.lt_iff, String.toList_append,
    String.toList_append, hchars]

/-- The texts of the paths below a directory start alike. -/
theorem FilePath.toText_below {d : FilePath} (hd : d.isAbsolute) :
    ∃ lead : String, ∀ x : List String, x ≠ [] → (d.below x).toText = lead ++ "/".intercalate x := by
  have hslashes : d.slashes ≠ 0 := by simpa [isAbsolute] using hd
  by_cases hroot : d.segments = []
  · exact ⟨"".pushn '/' d.slashes, fun x _ => by simp [toText, below, hslashes, hroot]⟩
  · refine ⟨"".pushn '/' d.slashes ++ ("/".intercalate d.segments ++ "/"), fun x hx => ?_⟩
    simp [toText, below, hslashes, String.append_assoc, String.intercalate_append_of_ne_nil hroot hx]

/-- **Sorting keeps lists of paths alike**: below both directories the texts come in the same order. -/
theorem Alike.mergeSort (hd : d.isAbsolute) (hd' : d'.isAbsolute) {p : List String → Prop}
    {ps qs : List FilePath} (h : Alike d d' p ps qs) (hp : ∀ x, p x → x ≠ []) :
    Alike d d' p (ps.mergeSort fun a b => decide (a.toText ≤ b.toText))
      (qs.mergeSort fun a b => decide (a.toText ≤ b.toText)) := by
  obtain ⟨xs, hxs, rfl, rfl⟩ := h
  have hsort : ∀ {d : FilePath}, d.isAbsolute →
      (xs.map d.below).mergeSort (fun a b => decide (a.toText ≤ b.toText)) =
        (xs.mergeSort fun x y => decide ("/".intercalate x ≤ "/".intercalate y)).map d.below := by
    intro d hd
    obtain ⟨lead, hlead⟩ := FilePath.toText_below hd
    refine (List.map_mergeSort fun x hx y hy => ?_).symm
    rw [hlead x (hp x (hxs x hx)), hlead y (hp y (hxs y hy))]
    exact decide_eq_decide.mpr append_le_append_iff.symm
  exact ⟨_, fun x hx => hxs x (List.mem_mergeSort.mp hx), hsort hd, hsort hd'⟩

end SolutionSurvey
