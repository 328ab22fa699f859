import SolutionSurvey.Project.Basic
import SolutionSurvey.Project.Sources

/-!
# Opening a project

A project is loaded from its manifest: the sources from the file tree, and the references to other
projects as far as their manifests are known.

## Main definitions

* `KnownProjects` — the identities of known projects by the paths of their manifests.
* `Manifest.references`, `Manifest.unresolved` — the references that lead to a known project, and those
  that do not.
* `ProjectRequest` — what is asked for when a project is opened.
* `Project.load` — the project of a manifest.
-/

namespace SolutionSurvey

/-- The identities of known projects by the normal paths of their manifests. -/
abbrev KnownProjects := List (FilePath × ProjectId)

/-- The identity of the project whose manifest stands at a path: the last one listed. -/
def KnownProjects.find? (known : KnownProjects) (manifest : FilePath) : Option ProjectId :=
  known.reverse.lookup manifest

namespace Manifest

/-- The targets of references as they are written; empty ones are passed over. -/
def targets (root : Xml.Element) : List String :=
  ((projectReferences root).filterMap fun e => e.attribute? "Include").filter (· != "")

/-- The project that a written target leads to. -/
def resolve (s : Site) (known : KnownProjects) (directory : FilePath) (written : String) :
    Option ProjectId :=
  known.find? (s.normalize (directory.join (.ofText (slashed written))))

/-- The known projects that a manifest refers to, each once. -/
def references (s : Site) (known : KnownProjects) (directory : FilePath) (root : Xml.Element) :
    List ProjectId :=
  ((targets root).filterMap (resolve s known directory)).eraseDups

/-- The written targets that lead to no known project. -/
def unresolved (s : Site) (known : KnownProjects) (directory : FilePath) (root : Xml.Element) :
    List String :=
  (targets root).filter fun t => (resolve s known directory t).isNone

end Manifest

/-- What is asked for when a project is opened. -/
structure ProjectRequest where
  path : FilePath
  id : Option ProjectId
  name : Option String
  known : KnownProjects
  deriving Repr, Inhabited

/-- The project that a manifest describes. Without an identity the project has one derived from the
path of its manifest, and without a name the name of the manifest. -/
def Project.ofManifest (s : Site) (rule : ScanRule) (q : ProjectRequest) (path : FilePath)
    (root : Xml.Element) : Project :=
  { id := q.id.getD (.derived path)
    name := match q.name with
      | none => path.stem
      | some n => if n = "" then path.stem else n
    path := some path
    documents := (Manifest.sources s rule path.parent root).map Document.ofPath
    references := Manifest.references s q.known path.parent root }

/-- Loads a project, and notes what was passed over. -/
def Project.load (s : Site) (rule : ScanRule) (q : ProjectRequest) : Noted Project :=
  let path := s.normalize q.path
  match Manifest.load s path with
  | .error f => .fail f
  | .ok root =>
    let project := Project.ofManifest s rule q path root
    ⟨(Manifest.skippedItems root).map .itemSkipped ++
        (Manifest.unresolved s q.known path.parent root).map (.referenceUnresolved path) ++
        [.projectLoaded path project.documents.length project.references.length],
      .ok project⟩

end SolutionSurvey
