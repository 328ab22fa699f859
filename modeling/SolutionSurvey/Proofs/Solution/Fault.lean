import SolutionSurvey.Command.Session
import SolutionSurvey.Proofs.Text.Newline
import SolutionSurvey.Solution.Open
import SolutionSurvey.Survey.Packages

/-!
# How opening a solution fails

A solution is opened step by step, and the first step that fails makes it fail: reading the solution file as
a text, and then loading the listed manifests that are files, one after the other. Listing the packages of its
projects reads their manifests again.

## Main definitions

* `Solution.text`, `Solution.present` — the text of a solution file, and the manifests that it leads to.
* `Solution.load_eq_error` — when a solution is not opened.
* `Solution.distinctPackages_eq_error` — when packages are not listed.
-/

namespace SolutionSurvey

namespace Noted

variable {α β : Type}

/-- Two steps fail exactly if the first one does, or the second one after a good outcome of the first. -/
theorem bind_outcome_eq_error {x : Noted α} {f : α → Noted β} {e : Failure} :
    (x >>= f).outcome = .error e ↔
      x.outcome = .error e ∨ ∃ a, x.outcome = .ok a ∧ (f a).outcome = .error e := by
  rw [bind_outcome]
  exact bind_eq_error

/-- What is done with a good outcome cannot fail if it is only noted. -/
theorem bind_pure_outcome_eq_error {x : Noted α} {g : α → β} {e : Failure} :
    (x >>= fun a => pure (g a)).outcome = .error e ↔ x.outcome = .error e := by
  rw [bind_outcome_eq_error]
  refine or_iff_left ?_
  rintro ⟨a, -, ha⟩
  cases ha

theorem note_bind_outcome (event : Event) (x : Noted α) : (note event >>= fun _ => x).outcome = x.outcome := by
  rw [bind_outcome]
  rfl

end Noted

variable {s : Site} {rule : ScanRule} {f : Failure}

/-! ## Manifests -/

/-- A project fails to load exactly if its manifest does. -/
theorem Project.load_eq_error {q : ProjectRequest} :
    (load s rule q).outcome = .error f ↔ Manifest.load s (s.normalize q.path) = .error f := by
  rw [load]
  cases Manifest.load s (s.normalize q.path) with
  | error g =>
      constructor
      · intro h
        cases h
        rfl
      · intro h
        cases h
        rfl
  | ok root => exact iff_of_false (fun h => nomatch h) fun h => nomatch h

theorem Project.load_eq_ok {q : ProjectRequest} :
    (∃ p, (load s rule q).outcome = .ok p) ↔ ∃ root, Manifest.load s (s.normalize q.path) = .ok root := by
  rw [load]
  cases Manifest.load s (s.normalize q.path) with
  | error g => exact iff_of_false (fun ⟨_, h⟩ => nomatch h) fun ⟨_, h⟩ => nomatch h
  | ok root => exact iff_of_true ⟨_, rfl⟩ ⟨root, rfl⟩

namespace Solution

/-- A path without a null character leads to a solution file, or a sentence tells why not. -/
theorem locate_cases {s : Site} {p : FilePath} (h : FilePath.holdsNull p.toText = false) :
    (∃ file, locate s p = .ok file) ∨ ∃ sentence, locate s p = .error (.command sentence) := by
  rw [locate, h, if_neg Bool.false_ne_true]
  dsimp only
  split
  · exact .inl ⟨_, rfl⟩
  · split
    · exact .inl ⟨_, rfl⟩
    · exact .inr ⟨_, rfl⟩

/-- The text of a solution file. -/
def text (s : Site) (p : FilePath) : Except Failure String :=
  (s.read (s.normalize p)).bind (decodeFile "utf-8-sig")

/-- No report tells why a solution file has no text. -/
theorem text_unexpected {p : FilePath} (h : text s p = .error f) : f.isReport = false := by
  obtain hread | ⟨bytes, -, hdecode⟩ := bind_eq_error.mp h
  · rw [Site.read] at hread
    split at hread
    · cases hread
      rfl
    · split at hread
      all_goals
        cases hread
        try rfl
  · rw [decodeFile_utf8Signed] at hdecode
    cases hchars : Encoding.decodeUtf8Signed bytes with
    | error fault =>
        rw [hchars] at hdecode
        cases hdecode
        rfl
    | ok cs =>
        rw [hchars] at hdecode
        cases hdecode

/-- The listed manifests that are files, in order. -/
def present (s : Site) (p : FilePath) (text : String) : List ListedProject :=
  (listed s (s.normalize p).parent text).filter fun l => s.isFile l.path

theorem loadListed_eq_error {path : FilePath} {known : KnownProjects} {ls : List ListedProject} :
    (loadListed s rule path known ls).outcome = .error f ↔
      FirstError (fun l => Manifest.load s (s.normalize l.path)) (ls.filter fun l => s.isFile l.path) f := by
  induction ls with
  | nil => exact iff_of_false nofun not_firstError_nil
  | cons l rest ih =>
      have hloads : (∃ p, (Project.load s rule ⟨l.path, some l.id, some l.name, known⟩).outcome = .ok p) ↔
          ∃ root, Manifest.load s (s.normalize l.path) = .ok root := Project.load_eq_ok
      rw [loadListed]
      by_cases hfile : s.isFile l.path = true
      · rw [if_pos hfile, List.filter_cons_of_pos (by simpa using hfile), firstError_cons, ← ih, ← hloads,
          Noted.bind_outcome_eq_error, Project.load_eq_error]
        simp only [Noted.bind_pure_outcome_eq_error, exists_and_right]
      · rw [if_neg hfile, List.filter_cons_of_neg (by simpa using hfile), ← ih, Noted.note_bind_outcome]

/-- **A solution is not opened** because its file has no text, or because of the first listed manifest that is
a file and cannot be loaded. -/
theorem load_eq_error {p : FilePath} :
    (load s rule p).outcome = .error f ↔
      text s p = .error f ∨ ∃ content, text s p = .ok content ∧
        FirstError (fun l => Manifest.load s (s.normalize l.path)) (present s p content) f := by
  have hopened (projects : List Project) :
      ¬ (do
        Noted.note (.solutionOpened (s.normalize p) projects.length)
        pure (⟨some (s.normalize p), projects⟩ : Solution) : Noted Solution).outcome = .error f := by
    rw [Noted.note_bind_outcome]
    exact fun h => nomatch h
  have hprojects (content : String) :
      (loadListed s rule (s.normalize p) (known (listed s (s.normalize p).parent content))
        (listed s (s.normalize p).parent content) >>= fun projects => do
          Noted.note (.solutionOpened (s.normalize p) projects.length)
          pure (⟨some (s.normalize p), projects⟩ : Solution)).outcome = .error f ↔
        FirstError (fun l => Manifest.load s (s.normalize l.path)) (present s p content) f := by
    rw [Noted.bind_outcome_eq_error, loadListed_eq_error]
    exact or_iff_left fun ⟨projects, _, h⟩ => hopened projects h
  rw [load]
  dsimp only
  rw [Noted.bind_outcome_eq_error]
  simp only [hprojects]
  exact Iff.rfl

end Solution

/-! ## Packages -/

theorem packagesOfAll_eq_error {ps : List Project} :
    (packagesOfAll s ps).outcome = .error f ↔ FirstError (fun p => (p.packages s).outcome) ps f := by
  induction ps with
  | nil => exact iff_of_false (fun h => nomatch h) not_firstError_nil
  | cons p rest ih =>
      rw [packagesOfAll, firstError_cons, ← ih, Noted.bind_outcome_eq_error]
      simp only [Noted.bind_pure_outcome_eq_error, exists_and_right]

/-- The packages of a solution are not listed because of its first project whose packages are not. -/
theorem Solution.distinctPackages_eq_error {sol : Solution} :
    (sol.distinctPackages s).outcome = .error f ↔
      FirstError (fun p => (p.packages s).outcome) sol.projects f := by
  rw [distinctPackages, Noted.bind_pure_outcome_eq_error]
  exact packagesOfAll_eq_error

end SolutionSurvey
