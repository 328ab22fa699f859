import SolutionSurvey.Project.Basic

/-!
# Solutions

A solution is a list of projects. Where several of them share an identity, the last one answers for it.

## Main definitions

* `Solution` — the solutions.
* `Solution.project?` — look-up by identity.
* `Solution.references`, `Solution.documents` — those of all projects, in order.
-/

namespace SolutionSurvey

/-- A solution; its projects keep their order. -/
structure Solution where
  path : Option FilePath
  projects : List Project
  deriving Repr, DecidableEq, Inhabited

namespace Solution

/-- The identities of all projects, in order. -/
def ids (s : Solution) : List ProjectId :=
  s.projects.map Project.id

/-- The project of an identity: the last one that has it. -/
def project? (s : Solution) (id : ProjectId) : Option Project :=
  s.projects.reverse.find? fun p => p.id == id

/-- All references between projects, in order. -/
def references (s : Solution) : List ProjectId :=
  s.projects.flatMap Project.references

/-- All documents, in order. -/
def documents (s : Solution) : List Document :=
  s.projects.flatMap Project.documents

/-- An identity can be looked up exactly when some project has it. -/
theorem project?_isSome (s : Solution) (id : ProjectId) :
    (s.project? id).isSome ↔ id ∈ s.ids := by
  simp only [project?, ids, List.find?_isSome, List.mem_reverse, beq_iff_eq, List.mem_map]

end Solution

end SolutionSurvey
