import SolutionSurvey.Proofs.Solution.Order
import SolutionSurvey.Proofs.Solution.Resolution
import Mathlib.Data.List.Dedup

/-!
# Which projects of an opened solution are lost

A project is known to look-up, to the graph and to the order by its identity alone, and the last project
that has an identity answers for it. Nothing keeps a listing from giving one identity to several
manifests, in the same letters or in others. Of the projects of an opened solution, those are lost whose
identity a later one has, and none is lost exactly if the listed manifests that are files have distinct
identities.

## Main definitions

* `Solution.Answers` — look-up by its identity leads to the project at a place.
* `Solution.answers_iff` — when it does.
* `Solution.IsBuildOrder.length_eq_iff` — when a build order has as many entries as there are projects.
* `Solution.answers_all_iff` — when no project of an opened solution is lost.
-/

namespace SolutionSurvey

namespace Solution

variable {s : Site} {rule : ScanRule} {sol : Solution}

/-! ## Places and identities -/

/-- The project at a place answers to its identity: look-up leads to this place and to no other. -/
def Answers (sol : Solution) (place : ℕ) : Prop :=
  ∃ p, sol.projects[place]? = some p ∧ sol.lastPlace p.id = place

/-- The last place of an identity holds it. -/
theorem ids_lastPlace {id : ProjectId} (h : id ∈ sol.ids) : sol.ids[sol.lastPlace id]? = some id := by
  obtain ⟨place, hplace⟩ := List.getElem?_of_mem h
  have hlt : place < sol.ids.length := (List.getElem?_eq_some_iff.mp hplace).1
  exact Nat.findGreatest_spec (P := fun n => sol.ids[n]? = some id) hlt.le hplace

/-- No place of an identity comes after its last one. -/
theorem le_lastPlace {id : ProjectId} {place : ℕ} (h : sol.ids[place]? = some id) :
    place ≤ sol.lastPlace id := by
  have hlt : place < sol.ids.length := (List.getElem?_eq_some_iff.mp h).1
  exact Nat.le_findGreatest hlt.le h

/-- A project answers to its identity exactly if no later project has it. -/
theorem answers_iff {place : ℕ} {p : Project} (h : sol.projects[place]? = some p) :
    sol.Answers place ↔ ∀ later q, place < later → sol.projects[later]? = some q → q.id ≠ p.id := by
  have hid : sol.ids[place]? = some p.id := by simp [ids, h]
  have hanswers : sol.Answers place ↔ sol.lastPlace p.id = place := by
    simp only [Answers, h, Option.some.injEq, exists_eq_left']
  rw [hanswers]
  constructor
  · intro hlast later q hlater hq heq
    have hlater : sol.ids[later]? = some p.id := by simp [ids, hq, heq]
    have hle := le_lastPlace hlater
    omega
  · intro hnone
    by_contra hne
    have hlt : place < sol.lastPlace p.id := lt_of_le_of_ne (le_lastPlace hid) (Ne.symm hne)
    have hlast := ids_lastPlace (List.mem_of_getElem? hid)
    simp only [ids, List.getElem?_map, Option.map_eq_some_iff] at hlast
    obtain ⟨q, hq, heq⟩ := hlast
    exact hnone _ q hlt hq heq

/-- All projects answer exactly if no two of them share an identity. -/
theorem forall_answers_iff : (∀ place < sol.projects.length, sol.Answers place) ↔ sol.ids.Nodup := by
  rw [List.nodup_iff_getElem?_ne_getElem?]
  constructor
  · intro hall i j hij hj heq
    have hlen : sol.ids.length = sol.projects.length := by simp [ids]
    obtain ⟨p, hp, hlast⟩ := hall i (by omega)
    have hi : sol.ids[i]? = some p.id := by simp [ids, hp]
    have hle := le_lastPlace (heq.symm.trans hi)
    omega
  · intro hdistinct place hplace
    have hp := List.getElem?_eq_getElem hplace
    rw [answers_iff hp]
    intro later q hlater hq heq
    have hlt : later < sol.ids.length := by simpa [ids] using (List.getElem?_eq_some_iff.mp hq).1
    exact hdistinct place later hlater hlt (by simp [ids, hp, hq, heq])

/-! ## Entries of an order -/

/-- A build order has one entry for each distinct identity. -/
theorem IsBuildOrder.length_eq {order : List ProjectId} (h : sol.IsBuildOrder order) :
    order.length = sol.ids.dedup.length := by
  have hperm : order.Perm sol.ids.dedup := by
    rw [List.perm_ext_iff_of_nodup h.nodup sol.ids.nodup_dedup]
    intro id
    rw [h.mem_iff, List.mem_dedup]
  exact hperm.length_eq

/-- A build order has as many entries as there are projects exactly if no two share an identity. -/
theorem IsBuildOrder.length_eq_iff {order : List ProjectId} (h : sol.IsBuildOrder order) :
    order.length = sol.projects.length ↔ sol.ids.Nodup := by
  have hlen : sol.ids.length = sol.projects.length := by simp [ids]
  rw [h.length_eq, ← hlen]
  constructor
  · intro heq
    exact List.dedup_eq_self.mp (sol.ids.dedup_sublist.eq_of_length heq)
  · intro hnodup
    rw [hnodup.dedup]

/-! ## Opened solutions -/

/-- The identities of an opened solution are those of the listed manifests that are files. -/
theorem LoadedFrom.ids_eq {known : KnownProjects} {ls : List ListedProject}
    (h : LoadedFrom s rule known ls sol.projects) :
    sol.ids = (ls.filter fun l => s.isFile l.path).map ListedProject.id := by
  refine h.map_eq_map fun l _ p hload => ?_
  obtain ⟨root, -, rfl⟩ := hload
  rfl

/-- **A project is lost only behind a later one of its identity.** In an opened solution look-up leads to
the last project that has an identity. It leads to every project by that project's own identity exactly
if the listed manifests that are files have distinct identities, and in the same case the order, where
there is one, has an entry for each project. -/
theorem answers_all_iff {p : FilePath} (h : (load s rule p).outcome = .ok sol) :
    ∃ text, (s.read (s.normalize p)).bind (decodeFile "utf-8-sig") = .ok text ∧
      (∀ id ∈ sol.ids, sol.project? id = sol.projects[sol.lastPlace id]?) ∧
      (∀ place q, sol.projects[place]? = some q → (sol.Answers place ↔
        ∀ later r, place < later → sol.projects[later]? = some r → r.id ≠ q.id)) ∧
      ((∀ place < sol.projects.length, sol.Answers place) ↔
        (((listed s (s.normalize p).parent text).filter fun l => s.isFile l.path).map
          ListedProject.id).Nodup) ∧
      (sol.Acyclic → ∃ order, sol.dependencyOrder.outcome = .ok order ∧ sol.IsBuildOrder order ∧
        (order.length = sol.projects.length ↔
          (((listed s (s.normalize p).parent text).filter fun l => s.isFile l.path).map
            ListedProject.id).Nodup)) := by
  obtain ⟨text, htext, hload⟩ := load_spec h
  refine ⟨text, htext, fun id hid => sol.project?_eq_getElem?_lastPlace hid,
    fun place q hq => answers_iff hq, ?_, ?_⟩
  · rw [forall_answers_iff, hload.ids_eq]
  · intro hacyclic
    obtain ⟨order, horder⟩ := Option.isSome_iff_exists.mp (sol.order?_isSome_iff.mpr hacyclic)
    have hbuild : sol.IsBuildOrder order :=
      (isBuildOrder_iff order).mpr (sol.graph.order?_legal sol.graph_wellFormed horder)
    refine ⟨order, by simp [dependencyOrder, horder], hbuild, ?_⟩
    rw [hbuild.length_eq_iff, hload.ids_eq]

/-! ## Two projects of one identity -/

/-- A solution file that gives one identity to two projects, in different letters. -/
def sharingListing : String :=
  "Project(\"\x7bP\x7d\") = \"One\", \"One\\One.csproj\", \"\x7bA\x7d\"\nEndProject\n" ++
    "Project(\"\x7bP\x7d\") = \"Two\", \"Two\\Two.csproj\", \"\x7ba\x7d\"\nEndProject\n"

/-- The solution file with the manifests of both projects in a directory of their own. -/
def sharingSite : Site where
  tree := .dir [("w", .dir
    [("s.sln", .file sharingListing.toUTF8.toList),
     ("One", .dir [("One.csproj", .file "<Project />".toUTF8.toList)]),
     ("Two", .dir [("Two.csproj", .file "<Project />".toUTF8.toList)])])]
  here := ⟨1, ["w"]⟩
  home := ⟨1, ["w"]⟩

/-- What is opened there. -/
def sharingSolution : Solution where
  path := some ⟨1, ["w", "s.sln"]⟩
  projects :=
    [⟨⟨"A"⟩, "One", some ⟨1, ["w", "One", "One.csproj"]⟩, [], []⟩,
      ⟨⟨"A"⟩, "Two", some ⟨1, ["w", "Two", "Two.csproj"]⟩, [], []⟩]

theorem load_sharingSite :
    (load sharingSite ⟨["bin", "obj"], [".cs"]⟩ (.ofText "s.sln")).outcome = .ok sharingSolution :=
  eq_ok_of_toOption (by decide +kernel)

theorem acyclic_sharingSolution : sharingSolution.Acyclic := by
  rw [← order?_isSome_iff]
  decide +kernel

/-- There the first project is lost, and the order has fewer entries than there are projects. -/
theorem answers_all_iff_sharingSite :
    (load sharingSite ⟨["bin", "obj"], [".cs"]⟩ (.ofText "s.sln")).outcome = .ok sharingSolution ∧
      sharingSolution.Acyclic ∧
      ∃ ls : List ListedProject,
        ¬ ((ls.filter fun l => sharingSite.isFile l.path).map ListedProject.id).Nodup ∧
        (¬ ∀ place < sharingSolution.projects.length, sharingSolution.Answers place) ∧
        ∃ order, sharingSolution.dependencyOrder.outcome = .ok order ∧
          order.length ≠ sharingSolution.projects.length := by
  obtain ⟨text, -, -, -, hiff, horder⟩ := answers_all_iff load_sharingSite
  obtain ⟨order, hfound, -, hlength⟩ := horder acyclic_sharingSolution
  have hshared : ¬ sharingSolution.ids.Nodup := by decide
  have hlost := mt forall_answers_iff.mp hshared
  have hlisted := mt hiff.mpr hlost
  exact ⟨load_sharingSite, acyclic_sharingSolution, _, hlisted, hlost, order, hfound,
    mt hlength.mp hlisted⟩

/-- Look-up by the identity of a project need not lead to it, and the order of an opened solution need not
have an entry for each project. -/
theorem not_answers_all :
    (¬ ∀ (s : Site) (rule : ScanRule) (p : FilePath) (sol : Solution),
      (load s rule p).outcome = .ok sol → ∀ q ∈ sol.projects, sol.project? q.id = some q) ∧
    ¬ ∀ (s : Site) (rule : ScanRule) (p : FilePath) (sol : Solution),
      (load s rule p).outcome = .ok sol → sol.Acyclic →
        ∃ order, sol.dependencyOrder.outcome = .ok order ∧ order.length = sol.projects.length := by
  have horder : sharingSolution.dependencyOrder.outcome = .ok [⟨"A"⟩] :=
    eq_ok_of_toOption (by decide +kernel)
  constructor
  · intro hall
    exact absurd (hall _ _ _ _ load_sharingSite) (by decide)
  · intro hall
    obtain ⟨order, hfound, hlength⟩ := hall _ _ _ _ load_sharingSite acyclic_sharingSolution
    rw [horder] at hfound
    cases hfound
    exact absurd hlength (by decide)

end Solution

end SolutionSurvey
