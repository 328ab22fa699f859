import SolutionSurvey.Proofs.Outcome
import SolutionSurvey.Solution.Open
import Mathlib.Data.List.Forall2

/-!
# Which references of an opened solution resolve

Written targets are looked up among all listed manifests, but only the manifests that are files become
projects. A reference to a listed manifest that is no file therefore keeps an identity that no project
of the solution need have. It is the only way in which a reference of an opened solution fails to
resolve.

## Main definitions

* `ListedProject.Loads` — the project that a listed manifest gives.
* `Solution.LoadedFrom` — the projects of the listed manifests that are files.
* `Solution.load_spec` — the projects of an opened solution.
* `Solution.RefersTo` — a loaded manifest has a target at a path.
* `Solution.references_resolve_iff` — when all references of an opened solution resolve.
-/

namespace SolutionSurvey

/-- The project of a listed manifest, when it is read with the identities of known manifests. -/
def ListedProject.Loads (s : Site) (rule : ScanRule) (known : KnownProjects) (l : ListedProject)
    (p : Project) : Prop :=
  ∃ root, Manifest.load s (s.normalize l.path) = .ok root ∧
    p = .ofManifest s rule ⟨l.path, some l.id, some l.name, known⟩ (s.normalize l.path) root

theorem ListedProject.loads_of_outcome {s : Site} {rule : ScanRule} {known : KnownProjects}
    {l : ListedProject} {p : Project}
    (h : (Project.load s rule ⟨l.path, some l.id, some l.name, known⟩).outcome = .ok p) :
    l.Loads s rule known p := by
  rcases hroot : Manifest.load s (s.normalize l.path) with f | root
  · simp [Project.load, hroot, Noted.fail] at h
  · simp only [Project.load, hroot, Except.ok.injEq] at h
    exact ⟨root, hroot, h.symm⟩

theorem KnownProjects.mem_of_find? {known : KnownProjects} {path : FilePath} {id : ProjectId}
    (h : known.find? path = some id) : (path, id) ∈ known := by
  obtain ⟨before, after, hsplit, -⟩ := List.lookup_eq_some_iff.mp h
  rw [← List.mem_reverse, hsplit]
  simp

namespace Solution

variable {s : Site} {rule : ScanRule} {path : FilePath}

/-! ## What is loaded -/

/-- The projects are those of the listed manifests that are files, in order. -/
def LoadedFrom (s : Site) (rule : ScanRule) (known : KnownProjects) (ls : List ListedProject)
    (ps : List Project) : Prop :=
  List.Forall₂ (ListedProject.Loads s rule known) (ls.filter fun l => s.isFile l.path) ps

/-- One listed project: it is loaded first if its manifest is a file, and passed over if not. -/
theorem loadListed_cons {known : KnownProjects} {l : ListedProject} {ls : List ListedProject}
    {ps : List Project} (h : (loadListed s rule path known (l :: ls)).outcome = .ok ps) :
    (s.isFile l.path = true ∧ ∃ p ps', ps = p :: ps' ∧ l.Loads s rule known p ∧
        (loadListed s rule path known ls).outcome = .ok ps') ∨
      (s.isFile l.path = false ∧ (loadListed s rule path known ls).outcome = .ok ps) := by
  rw [loadListed] at h
  split at h
  · next hfile =>
      obtain ⟨p, hp, hrest⟩ := Noted.bind_outcome_eq_ok.mp h
      obtain ⟨ps', hps, hcons⟩ := Noted.bind_outcome_eq_ok.mp hrest
      cases hcons
      exact .inl ⟨hfile, p, ps', rfl, ListedProject.loads_of_outcome hp, hps⟩
  · next hfile =>
      obtain ⟨-, -, hrest⟩ := Noted.bind_outcome_eq_ok.mp h
      exact .inr ⟨by simpa using hfile, hrest⟩

theorem loadListed_spec {known : KnownProjects} {ls : List ListedProject} {ps : List Project}
    (h : (loadListed s rule path known ls).outcome = .ok ps) : LoadedFrom s rule known ls ps := by
  induction ls generalizing ps with
  | nil =>
      cases h
      exact .nil
  | cons l ls ih =>
      rcases loadListed_cons h with ⟨hfile, p, ps', rfl, hp, hrest⟩ | ⟨hfile, hrest⟩
      · rw [LoadedFrom, List.filter_cons_of_pos (by simpa using hfile)]
        exact .cons hp (ih hrest)
      · rw [LoadedFrom, List.filter_cons_of_neg (by simp [hfile])]
        exact ih hrest

/-- An opened solution has the projects of the listed manifests that are files. All listed manifests are
known to them. -/
theorem load_spec {p : FilePath} {sol : Solution} (h : (load s rule p).outcome = .ok sol) :
    ∃ text, (s.read (s.normalize p)).bind (decodeFile "utf-8-sig") = .ok text ∧
      LoadedFrom s rule (known (listed s (s.normalize p).parent text))
        (listed s (s.normalize p).parent text) sol.projects := by
  obtain ⟨text, htext, hrest⟩ := Noted.bind_outcome_eq_ok.mp h
  obtain ⟨ps, hps, hnote⟩ := Noted.bind_outcome_eq_ok.mp hrest
  obtain ⟨-, -, hsol⟩ := Noted.bind_outcome_eq_ok.mp hnote
  cases hsol
  exact ⟨text, htext, loadListed_spec hps⟩

/-! ## What is referred to -/

/-- A loaded manifest has a target at `path`. -/
def RefersTo (s : Site) (ls : List ListedProject) (path : FilePath) : Prop :=
  ∃ l ∈ ls, s.isFile l.path = true ∧ ∃ root, Manifest.load s (s.normalize l.path) = .ok root ∧
    ∃ t ∈ Manifest.targets root,
      s.normalize ((s.normalize l.path).parent.join (.ofText (Manifest.slashed t))) = path

variable {ls : List ListedProject} {sol : Solution} {known : KnownProjects}

/-- Every project comes from a listed manifest that is a file, and every such manifest gives one. -/
theorem LoadedFrom.exists_loads {ps : List Project} (h : LoadedFrom s rule known ls ps) :
    (∀ p ∈ ps, ∃ l ∈ ls, s.isFile l.path = true ∧ l.Loads s rule known p) ∧
      ∀ l ∈ ls, s.isFile l.path = true → ∃ p ∈ ps, l.Loads s rule known p := by
  have pair : ∀ {ls : List ListedProject} {ps : List Project},
      List.Forall₂ (ListedProject.Loads s rule known) ls ps →
        (∀ p ∈ ps, ∃ l ∈ ls, l.Loads s rule known p) ∧ ∀ l ∈ ls, ∃ p ∈ ps, l.Loads s rule known p := by
    intro ls ps hload
    induction hload with
    | nil => simp
    | cons hlp _ ih =>
        simp only [List.mem_cons, forall_eq_or_imp, exists_eq_or_imp]
        exact ⟨⟨.inl hlp, fun p hp => .inr (ih.1 p hp)⟩, .inl hlp, fun l hl => .inr (ih.2 l hl)⟩
  obtain ⟨hleft, hright⟩ := pair h
  constructor
  · intro p hp
    obtain ⟨l, hl, hload⟩ := hleft p hp
    obtain ⟨hmem, hfile⟩ := List.mem_filter.mp hl
    exact ⟨l, hmem, hfile, hload⟩
  · intro l hl hfile
    exact hright l (List.mem_filter.mpr ⟨hl, hfile⟩)

/-- What a project takes from its listing is read off the listed manifests that are files. -/
theorem LoadedFrom.map_eq_map {β : Type} {ps : List Project} (h : LoadedFrom s rule known ls ps)
    {f : Project → β} {g : ListedProject → β}
    (hload : ∀ l ∈ ls, ∀ p, l.Loads s rule known p → f p = g l) :
    ps.map f = (ls.filter fun l => s.isFile l.path).map g := by
  have pair : ∀ {ls : List ListedProject} {ps : List Project},
      List.Forall₂ (ListedProject.Loads s rule known) ls ps →
        (∀ l ∈ ls, ∀ p, l.Loads s rule known p → f p = g l) → ps.map f = ls.map g := by
    intro ls ps hpairs hload
    induction hpairs with
    | nil => rfl
    | cons hlp _ ih =>
        rw [List.forall_mem_cons] at hload
        rw [List.map_cons, List.map_cons, hload.1 _ hlp, ih hload.2]
  exact pair h fun l hl => hload l (List.mem_of_mem_filter hl)

theorem LoadedFrom.mem_ids (h : LoadedFrom s rule known ls sol.projects) (id : ProjectId) :
    id ∈ sol.ids ↔ ∃ l ∈ ls, s.isFile l.path = true ∧ l.id = id := by
  obtain ⟨hleft, hright⟩ := h.exists_loads
  simp only [ids, List.mem_map]
  constructor
  · rintro ⟨p, hp, rfl⟩
    obtain ⟨l, hl, hfile, root, -, rfl⟩ := hleft p hp
    exact ⟨l, hl, hfile, rfl⟩
  · rintro ⟨l, hl, hfile, rfl⟩
    obtain ⟨p, hp, root, -, rfl⟩ := hright l hl hfile
    exact ⟨_, hp, rfl⟩

theorem LoadedFrom.mem_references (h : LoadedFrom s rule known ls sol.projects) (id : ProjectId) :
    id ∈ sol.references ↔ ∃ path, RefersTo s ls path ∧ known.find? path = some id := by
  obtain ⟨hleft, hright⟩ := h.exists_loads
  simp only [references, List.mem_flatMap]
  constructor
  · rintro ⟨p, hp, hid⟩
    obtain ⟨l, hl, hfile, root, hroot, rfl⟩ := hleft p hp
    simp only [Project.ofManifest, Manifest.references, List.mem_eraseDups, List.mem_filterMap] at hid
    obtain ⟨t, ht, hfind⟩ := hid
    exact ⟨_, ⟨l, hl, hfile, root, hroot, t, ht, rfl⟩, hfind⟩
  · rintro ⟨_, ⟨l, hl, hfile, root, hroot, t, ht, rfl⟩, hfind⟩
    obtain ⟨p, hp, root', hroot', rfl⟩ := hright l hl hfile
    obtain rfl : root' = root := Except.ok.inj (hroot'.symm.trans hroot)
    refine ⟨_, hp, ?_⟩
    simp only [Project.ofManifest, Manifest.references, List.mem_eraseDups, List.mem_filterMap]
    exact ⟨t, ht, hfind⟩

/-! ## When all references resolve -/

/-- **A reference fails to resolve only if it leads to a listed manifest that is no file.** All
references of an opened solution resolve exactly if every such manifest shares its identity, which is
the one listed last for it, with a listed manifest that is a file. -/
theorem references_resolve_iff {p : FilePath} (h : (load s rule p).outcome = .ok sol) :
    ∃ text, (s.read (s.normalize p)).bind (decodeFile "utf-8-sig") = .ok text ∧
      ((∀ id ∈ sol.references, (sol.project? id).isSome) ↔
        ∀ m ∈ listed s (s.normalize p).parent text,
          s.isFile m.path = false →
          (Solution.known (listed s (s.normalize p).parent text)).find? m.path = some m.id →
          RefersTo s (listed s (s.normalize p).parent text) m.path →
          ∃ l ∈ listed s (s.normalize p).parent text, s.isFile l.path = true ∧ l.id = m.id) := by
  obtain ⟨text, htext, hload⟩ := load_spec h
  refine ⟨text, htext, ?_⟩
  simp only [project?_isSome, hload.mem_ids, hload.mem_references]
  constructor
  · intro hall m _ _ hlast hrefers
    exact hall m.id ⟨m.path, hrefers, hlast⟩
  · rintro hall id ⟨path, hrefers, hfind⟩
    obtain ⟨m, hm, heq⟩ := List.mem_map.mp (KnownProjects.mem_of_find? hfind)
    cases heq
    cases hfile : s.isFile m.path with
    | true => exact ⟨m, hm, hfile, rfl⟩
    | false => exact hall m hm hfile hfind hrefers

/-! ## A reference that leads nowhere -/

/-- A solution file that lists two projects. -/
def danglingListing : String :=
  "Project(\"\x7bP\x7d\") = \"App\", \"App\\App.csproj\", \"\x7bA\x7d\"\nEndProject\n" ++
    "Project(\"\x7bP\x7d\") = \"Gone\", \"Gone\\Gone.csproj\", \"\x7bB\x7d\"\nEndProject\n"

/-- The manifest of the first project, which refers to the second one. -/
def danglingManifest : String :=
  "<Project>\n  <ProjectReference Include=\"..\\Gone\\Gone.csproj\" />\n</Project>\n"

/-- The two files in a directory of their own; the manifest of the second project is not there. -/
def danglingSite : Site where
  tree := .dir [("w", .dir
    [("s.sln", .file danglingListing.toUTF8.toList),
     ("App", .dir [("App.csproj", .file danglingManifest.toUTF8.toList)])])]
  here := ⟨1, ["w"]⟩
  home := ⟨1, ["w"]⟩

/-- What is opened there. -/
def danglingSolution : Solution where
  path := some ⟨1, ["w", "s.sln"]⟩
  projects := [⟨⟨"A"⟩, "App", some ⟨1, ["w", "App", "App.csproj"]⟩, [], [⟨"B"⟩]⟩]

theorem load_danglingSite :
    (load danglingSite ⟨["bin", "obj"], [".cs"]⟩ (.ofText "s.sln")).outcome = .ok danglingSolution :=
  eq_ok_of_toOption (by decide +kernel)

/-- The condition fails there, since nothing else has the identity of the second project. -/
theorem references_resolve_iff_danglingSite :
    (load danglingSite ⟨["bin", "obj"], [".cs"]⟩ (.ofText "s.sln")).outcome = .ok danglingSolution ∧
      ∃ ls, ls ≠ [] ∧ ¬ ∀ m ∈ ls, danglingSite.isFile m.path = false →
        (Solution.known ls).find? m.path = some m.id → RefersTo danglingSite ls m.path →
        ∃ l ∈ ls, danglingSite.isFile l.path = true ∧ l.id = m.id := by
  obtain ⟨text, -, hiff⟩ := references_resolve_iff load_danglingSite
  have hdangling : ¬ ∀ id ∈ danglingSolution.references, (danglingSolution.project? id).isSome := by
    decide
  have hfails := mt hiff.mpr hdangling
  refine ⟨load_danglingSite, _, ?_, hfails⟩
  intro hnil
  simp [hnil] at hfails

/-- Not every reference of every opened solution resolves. -/
theorem not_references_resolve :
    ¬ ∀ (s : Site) (rule : ScanRule) (p : FilePath) (sol : Solution),
      (load s rule p).outcome = .ok sol → ∀ id ∈ sol.references, (sol.project? id).isSome := by
  intro hall
  exact absurd (hall _ _ _ _ load_danglingSite) (by decide)

end Solution

end SolutionSurvey
