import SolutionSurvey.Journal.Event
import SolutionSurvey.Package.Identity
import SolutionSurvey.Project.Manifest
import SolutionSurvey.Solution.Basic
import SolutionSurvey.Syntax.View

/-!
# Package references

The packages that projects refer to, read lazily: a manifest is opened only when its first package is
asked for.

## Main definitions

* `PackageReference` — a package that a project refers to.
* `packageFrom?`, `packageOf?` — the package of a written name and version, and of an element.
* `PackageStream` — the packages of some projects, with `PackageStream.next`.
* `Project.packages`, `Solution.packages` — the same at once.
* `Solution.distinctPackages` — each package once, in order.
-/

namespace SolutionSurvey

/-- A package that a project refers to. -/
structure PackageReference where
  project : Project
  package : PackageIdentity
  deriving Inhabited

/-- The package of a written name and version; a version that is no plain numeric one counts as zero.
Without a name or a version there is none. -/
def packageFrom? (name raw : Option String) : Option (Except Failure PackageIdentity) :=
  match name, raw with
  | some name, some raw => some (
      match Version.tryParse raw with
      | .error f => .error (.value f)
      | .ok version => (PackageIdentity.ofVersion name version).mapError .report)
  | _, _ => none

/-- The package of an element that gives a name and a version. Other elements are passed over. -/
def packageOf? (e : Xml.Element) : Option (Except Failure PackageIdentity) :=
  packageFrom? (e.attribute? "Include") (e.attribute? "Version")

/-! ## Lazily -/

/-- The packages that are still to come: those of a project under way, then those of other projects. -/
structure PackageStream where
  current : Option (Project × List Xml.Element × Nat)
  pending : List Project
  deriving Inhabited

namespace PackageStream

/-- The stream of the packages of some projects. -/
def ofProjects (ps : List Project) : PackageStream := ⟨none, ps⟩

/-- The stream without anything to come. -/
def done : PackageStream := ⟨none, []⟩

/-- The next package among elements, with the elements after it. -/
def seek : List Xml.Element → Option (Except Failure PackageIdentity × List Xml.Element)
  | [] => none
  | e :: rest =>
    match packageOf? e with
    | some r => some (r, rest)
    | none => seek rest

/-- What a stream gives next, with the events noted before. -/
abbrev Answer := List Event × Yield PackageReference × PackageStream

/-- The next package of a project under way; `others` tells what comes if there is none. -/
def advance (p : Project) (elements : List Xml.Element) (count : Nat) (pending : List Project)
    (others : Answer) : Answer :=
  match seek elements with
  | some (.ok package, rest) => ([], .item ⟨p, package⟩, ⟨some (p, rest, count + 1), pending⟩)
  | some (.error f, _) => ([], .failed f, done)
  | none => (.packagesRead p.name count :: others.1, others.2)

/-- The next package of some projects. -/
def nextOf (s : Site) : List Project → Answer
  | [] => ([], .finished, done)
  | p :: rest =>
    match p.path with
    | none => nextOf s rest
    | some path =>
      match Manifest.load s path with
      | .error f => ([], .failed f, done)
      | .ok root => advance p (Manifest.packageReferences root) 0 rest (nextOf s rest)

/-- The next package of a stream, read from the tree as it is now. -/
def next (s : Site) (t : PackageStream) : Answer :=
  match t.current with
  | some (p, elements, count) => advance p elements count t.pending (nextOf s t.pending)
  | none => nextOf s t.pending

end PackageStream

/-! ## At once -/

/-- The packages that a project refers to, in document order. -/
def Project.packages (s : Site) (p : Project) : Noted (List PackageIdentity) :=
  match p.path with
  | none => pure []
  | some path => do
    let root ← Noted.ofExcept (Manifest.load s path)
    let packages ← Noted.ofExcept (((Manifest.packageReferences root).filterMap packageOf?).mapM fun r => r)
    Noted.note (.packagesRead p.name packages.length)
    pure packages

/-- The packages that some projects refer to, in order. -/
def packagesOfAll (s : Site) : List Project → Noted (List PackageIdentity)
  | [] => pure []
  | p :: rest => do
    let here ← p.packages s
    let others ← packagesOfAll s rest
    pure (here ++ others)

/-- The packages that the projects of a solution refer to, in order. -/
def Solution.packages (s : Site) (sol : Solution) : Noted (List PackageIdentity) :=
  packagesOfAll s sol.projects

/-- The packages of a solution, each once in its first spelling, in the order of packages. -/
def Solution.distinctPackages (s : Site) (sol : Solution) : Noted (List PackageIdentity) := do
  let all ← sol.packages s
  pure (PackageIdentity.sort (PackageIdentity.distinct all))

end SolutionSurvey
